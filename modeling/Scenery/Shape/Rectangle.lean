import Scenery.Shape.Grid
import Scenery.Geometry.Basic

/-!
# Rectangles and triangles

A rectangle is a grid in the plane of the first two axes that faces along the
third.  It is built around the middle between its corners, its first row on top.

A triangle is one face through its three corners.  Its texture coordinates keep
its proportions: the first edge lies along the first axis of the texture, and
the third corner where the lengths of the edges put it.
-/

namespace Scenery.Shape

variable {α : Type} [Scalar α]

/-- Build a rectangle. -/
def ofRectangle (g : Rectangle α) : Shape α :=
  let size := (g.second - g.first).abs
  let middle := (g.first + g.second).scale Scalar.half
  let cols := max g.partsX.toNat 1
  let rows := max g.partsY.toNat 1
  let extent := size.scale Scalar.half
  let stepX := size.x / Scalar.ofCount cols
  let stepY := size.y / Scalar.ofCount rows
  let positions := gridOf cols rows fun col row =>
    let x := Scalar.ofCount col * stepX - extent.x
    let y := Scalar.ofCount row * stepY - extent.y
    (⟨x, -y, 0⟩ : Vec3 α)
  let uvs := gridOf cols rows fun col row =>
    (⟨fraction col cols, 1 - fraction row rows⟩ : Vec2 α)
  let normals := gridOf cols rows fun _ _ => (Vec3.unitZ : Vec3 α)
  { mesh := (Mesh.ofVertices positions.toArray (gridIndices 0 cols rows).toArray
      (some normals.toArray)).withUvs uvs.toArray
    offset := ⟨middle.x, middle.y, 0⟩ }

/-- The texture coordinates of a triangle. -/
def triangleUvs (g : Triangle α) : List (Vec2 α) :=
  let a := g.first.distance g.second
  let b := g.second.distance g.third
  let c := g.third.distance g.first
  let cos := if 0 < a ∧ 0 < c then (a * a - b * b + c * c) / (Scalar.two * a * c) else 0
  let sin := Scalar.sqrt (Scalar.greater (1 - cos * cos) 0)
  [⟨0, 0⟩, ⟨a, 0⟩, ⟨c * cos, c * sin⟩]

/-- Build a triangle. -/
def ofTriangle (g : Triangle α) : Shape α :=
  let mesh := Mesh.ofVertices #[g.first, g.second, g.third] #[0, 1, 2] none
  atOrigin (mesh.withUvs (triangleUvs g).toArray).computeNormals

end Scenery.Shape
