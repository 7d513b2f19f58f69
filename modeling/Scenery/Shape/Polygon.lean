import Scenery.Shape.Grid
import Scenery.Geometry.Basic

/-!
# Polygons

A polygon is a flat rosette of rings around the origin, with a color at each
vertex.  Vertex zero is the one in the middle, and the vertices of the rings
follow ring by ring (`ringVertex`).  The radius and the color of a ring go
evenly from the middle to the outermost ring.

Its triangles are a fan from the middle to the first ring that faces along the
third axis, two triangles between any two neighbours on neighbouring rings, and
a fan from the middle to the last ring that faces the other way, so that the
outline is seen from both sides.
-/

namespace Scenery.Shape

/-- The number of a vertex of a ring, rings being counted from one.  Slices go
around: the one after the last is the first. -/
def ringVertex (slices ring slice : Nat) : Nat := 1 + (ring - 1) * slices + slice % slices

/-- The triangles of a polygon. -/
def polygonIndices (slices rings : Nat) : List Nat :=
  let place := ringVertex slices
  ((List.range slices).flatMap fun s => [0, place 1 s, place 1 (s + 1)]) ++
    ((List.range (rings - 1)).flatMap fun r =>
      (List.range slices).flatMap fun s =>
        let a := place (r + 1) s
        let b := place (r + 1) (s + 1)
        let c := place (r + 2) (s + 1)
        let d := place (r + 2) s
        [a, d, c, a, c, b]) ++
    ((List.range slices).flatMap fun s => [0, place rings (s + 1), place rings s])

/-- What belongs to the vertices of a polygon: one value in the middle, and one
for each ring and slice, rings being counted from one. -/
def ringsOf {β : Type} (slices rings : Nat) (middle : β) (vertex : Nat → Nat → β) : List β :=
  middle :: (List.range rings).flatMap fun r =>
    (List.range slices).map fun s => vertex (r + 1) s

variable {α : Type} [Angular α]

/-- How far around the middle a slice is. -/
def sliceAngle (slices slice : Nat) : α := fraction slice slices * Angular.fullTurn

/-- Build a polygon. -/
def ofPolygon (g : Polygon α) : Shape α :=
  let slices := max g.slices.toNat 3
  let rings := max g.rings.toNat 1
  let positions := ringsOf slices rings .zero fun ring slice =>
    let radius := fraction ring rings * g.radius
    (⟨radius * Angular.cos (sliceAngle slices slice),
      radius * Angular.sin (sliceAngle slices slice), 0⟩ : Vec3 α)
  let colors := ringsOf slices rings g.inner fun ring _ =>
    g.inner.lerp g.outer (fraction ring rings)
  let uvs := ringsOf slices rings (.splat Scalar.half) fun ring slice =>
    let t : α := fraction ring rings
    (⟨Scalar.half + Scalar.half * t * Angular.cos (sliceAngle slices slice),
      Scalar.half + Scalar.half * t * Angular.sin (sliceAngle slices slice)⟩ : Vec2 α)
  let normals := positions.map fun _ => (Vec3.unitZ : Vec3 α)
  atOrigin (((Mesh.ofVertices positions.toArray (polygonIndices slices rings).toArray
    (some normals.toArray)).withUvs uvs.toArray).withColors colors.toArray)

end Scenery.Shape
