import Scenery.Mesh

/-!
# Vertex grids

Most figures are built over a grid of `cols` by `rows` cells, which has one more
vertex than cells in either direction.  Vertices are numbered row by row.  Each
cell is two triangles that share the diagonal from its lower left to its upper
right corner (`gridIndices`).

`fraction` is how far along a number of segments a vertex is.
-/

namespace Scenery

/-- A mesh and where it sits in the group that owns it. -/
structure Shape (α : Type) where
  /-- The mesh, around its own origin. -/
  mesh : Mesh α
  /-- Where that origin is. -/
  offset : Vec3 α

namespace Shape

variable {α : Type} [Scalar α]

/-- A mesh that sits at the origin. -/
def atOrigin (mesh : Mesh α) : Shape α := ⟨mesh, .zero⟩

/-- How far along `count` segments the end of the first `i` is. -/
def fraction (i count : Nat) : α := Scalar.ofCount i / Scalar.ofCount count

/-- What belongs to the vertices of a grid, row by row. -/
def gridOf {β : Type} (cols rows : Nat) (vertex : Nat → Nat → β) : List β :=
  (List.range (rows + 1)).flatMap fun row =>
    (List.range (cols + 1)).map fun col => vertex col row

/-- The corners of the two triangles of a cell, for a grid whose first vertex
has the number `start`. -/
def cellIndices (start cols row col : Nat) : List Nat :=
  let a := start + row * (cols + 1) + col
  let b := start + (row + 1) * (cols + 1) + col
  let c := start + (row + 1) * (cols + 1) + col + 1
  let d := start + row * (cols + 1) + col + 1
  [a, b, d, b, c, d]

/-- The triangles of a grid whose first vertex has the number `start`. -/
def gridIndices (start cols rows : Nat) : List Nat :=
  (List.range rows).flatMap fun row =>
    (List.range cols).flatMap fun col => cellIndices start cols row col

theorem gridOf_length {β : Type} (cols rows : Nat) (vertex : Nat → Nat → β) :
    (gridOf cols rows vertex).length = (cols + 1) * (rows + 1) := by
  simp [gridOf, List.length_flatMap, List.map_const', Nat.mul_comm]

end Shape

end Scenery
