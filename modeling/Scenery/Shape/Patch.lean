import Scenery.Shape.Grid
import Scenery.Surface.Basic
import Scenery.Geometry.Basic

/-!
# Surface patches

A patch is declared by its degrees and a flat list of control points, which is
cut into the rows of a net (`controlNet?`).  Its mesh is a grid of points of the
surface.

The number of control points that is needed is a product of two words of 64 bits
(`netSize?`).  A product that is no such word stops the program.  Then there is
neither a mesh nor a reason why there is none, so what becomes of a patch may be
nothing at all.
-/

namespace Scenery.Shape

variable {α : Type} [Scalar α]

/-- The greatest word of 64 bits. -/
def maxWord : Nat := 0xFFFFFFFFFFFFFFFF

/-- The product of two words of 64 bits, if it is one. -/
def times? (a b : Nat) : Option Nat := if a * b ≤ maxWord then some (a * b) else none

/-- The number of control points a patch needs. -/
def netSize? (g : Patch α) : Option Nat := times? (g.degreeU.toNat + 1) (g.degreeV.toNat + 1)

/-- Cut a list into pieces of one length, `count` at most. -/
def pieces {β : Type} (length : Nat) : Nat → List β → List (List β)
  | 0, _ => []
  | count + 1, xs =>
      if xs.length < length then [] else xs.take length :: pieces length count (xs.drop length)

/-- What is wrong with the number of control points of a patch that needs so
many. -/
def netError (g : Patch α) (needed : Nat) : GeometryError :=
  .controlPointCount g.degreeU.toNat g.degreeV.toNat needed g.points.length

/-- The control points of a patch, row by row. -/
def controlNet? (g : Patch α) : Option (Except GeometryError (List (List (Vec3 α)))) := do
  let needed ← netSize? g
  if g.points.length = needed then
    some (.ok (pieces (g.degreeV.toNat + 1) g.points.length g.points))
  else some (.error (netError g needed))

/-- The mesh of a surface, sampled on a grid. -/
def sampled (surface : Surface α) (cols rows : Nat) : Mesh α :=
  let positions := gridOf cols rows fun col row =>
    (surface.evaluate? (fraction col cols) (fraction row rows)).getD .zero
  let uvs := gridOf cols rows fun col row => (⟨fraction col cols, fraction row rows⟩ : Vec2 α)
  ((Mesh.ofVertices positions.toArray (gridIndices 0 cols rows).toArray none).withUvs
    uvs.toArray).computeNormals

/-- Build a patch. -/
def ofPatch? (g : Patch α) : Option (Except GeometryError (Shape α)) :=
  if g.partsU = 0 then some (.error (.noSamples 'u'))
  else if g.partsV = 0 then some (.error (.noSamples 'v'))
  else do
    match ← controlNet? g with
    | .error e => some (.error e)
    | .ok net =>
        match Surface.patch? g.degreeU.toNat g.degreeV.toNat net with
        | some surface => some (.ok (atOrigin (sampled surface g.partsU.toNat g.partsV.toNat)))
        | none => do
            let needed ← netSize? g
            some (.error (netError g needed))

end Scenery.Shape
