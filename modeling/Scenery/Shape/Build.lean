import Scenery.Shape.Rectangle
import Scenery.Shape.Box
import Scenery.Shape.Sphere
import Scenery.Shape.Cylinder
import Scenery.Shape.Polygon
import Scenery.Shape.Patch

/-!
# Building figures

`Figure.build?` is the mesh of a figure, or the reason why there is none.  It is
nothing where the program stops in the middle, which only a patch can bring about.
A mesh numbers its vertices with 32 bits, so a figure that asks for more is refused
before anything is built.  The number of vertices it asks for is estimated from
its counts of segments alone (`Figure.vertexEstimate`), in words of 64 bits that
stay at their greatest value once they reach it.  An estimate counts two caps
for every cylinder, also for one that has none.
-/

namespace Scenery

namespace Shape

/-- The greatest number of vertices that 32 bits can count. -/
def maxVertices : Nat := 0xFFFFFFFF

/-- A count as a word of 64 bits that stays at its greatest value. -/
def saturated (n : Nat) : Nat := min n maxWord

/-- The number of vertices of a grid. -/
def gridEstimate (cols rows : Nat) : Nat := saturated ((cols + 1) * (rows + 1))

/-- The number of vertices of a wall and two caps. -/
def cylinderEstimate (slices layers : UInt32) : Nat :=
  let cols := max slices.toNat 3
  saturated (gridEstimate cols (max layers.toNat 1) + 2 * (cols + 2))

end Shape

variable {α : Type}

/-- The number of vertices a figure asks for. -/
def Figure.vertexEstimate : Figure α → Nat
  | .rectangle g => Shape.gridEstimate (max g.partsX.toNat 1) (max g.partsY.toNat 1)
  | .triangle _ => 3
  | .box g =>
      let nx := max g.partsX.toNat 1
      let ny := max g.partsY.toNat 1
      let nz := max g.partsZ.toNat 1
      let two := Shape.saturated (Shape.gridEstimate nx ny + Shape.gridEstimate nz ny)
      let three := Shape.saturated (two + Shape.gridEstimate nx nz)
      Shape.saturated (three * 2)
  | .sphere g => Shape.gridEstimate (max g.slices.toNat 3) (max g.layers.toNat 2)
  | .cylinder g => Shape.cylinderEstimate g.slices g.layers
  | .polygon g => Shape.saturated (max g.slices.toNat 3 * max g.rings.toNat 1) + 1
  | .nurbs g => Shape.gridEstimate g.partsU.toNat g.partsV.toNat
  | .video g => Shape.cylinderEstimate g.slices g.layers

variable [Angular α]

/-- The mesh of a figure, whatever the number of its vertices. -/
def Figure.shape? : Figure α → Option (Except GeometryError (Shape α))
  | .rectangle g => some (.ok (Shape.ofRectangle g))
  | .triangle g => some (.ok (Shape.ofTriangle g))
  | .box g => some (.ok (Shape.ofBox g))
  | .sphere g => some (.ok (Shape.ofSphere g))
  | .cylinder g => some (.ok (Shape.ofCylinder g))
  | .polygon g => some (.ok (Shape.ofPolygon g))
  | .nurbs g => Shape.ofPatch? g
  | .video g => some (.ok (Shape.ofVideo g))

/-- The mesh of a figure, if it asks for no more vertices than 32 bits can
count. -/
def Figure.build? (f : Figure α) : Option (Except GeometryError (Shape α)) :=
  if Shape.maxVertices < f.vertexEstimate then
    some (.error (.tooManyVertices f.tag f.vertexEstimate))
  else f.shape?

end Scenery
