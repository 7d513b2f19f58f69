import Scenery.Bounds
import Scenery.Color

/-!
# Triangle meshes

A mesh is a list of vertices and a list of indices into it, three to a triangle.
A triangle winds counter-clockwise when it is seen from the side its normals
point to.  Normals, texture coordinates and colors are optional, one for each
vertex.

Nothing stops a mesh from having indices that name no vertex, or lists of the
wrong length.  Every operation here allows for that: a triangle with an index
that names no vertex, and one or two indices left over at the end, count for
nothing, and a vertex without an attribute has a neutral one.

`Mesh.computeNormals` gives each vertex the normal of its triangles, each
weighted by its area, since the outer product of two edges is twice as long as
the triangle is large.
-/

namespace Scenery

/-- A triangle mesh. -/
structure Mesh (α : Type) where
  /-- Where the vertices are. -/
  positions : Array (Vec3 α)
  /-- The normals of the vertices. -/
  normals : Option (Array (Vec3 α))
  /-- The texture coordinates of the vertices. -/
  uvs : Option (Array (Vec2 α))
  /-- The colors of the vertices. -/
  colors : Option (Array (Color α))
  /-- The corners of the triangles, three after another. -/
  indices : Array Nat
  /-- The box around the vertices. -/
  bounds : Bounds α

/-- A vertex with all its attributes. -/
structure Vertex (α : Type) where
  /-- Where the vertex is. -/
  position : Vec3 α
  /-- Its normal. -/
  normal : Vec3 α
  /-- Its texture coordinates. -/
  uv : Vec2 α
  /-- Its color. -/
  color : Color α

/-- The corners of a triangle. -/
structure Face where
  /-- The first corner. -/
  a : Nat
  /-- The second corner. -/
  b : Nat
  /-- The third corner. -/
  c : Nat
deriving DecidableEq, Repr

/-- The triangles of a list of indices. -/
def facesOf : List Nat → List Face
  | a :: b :: c :: rest => ⟨a, b, c⟩ :: facesOf rest
  | _ => []

namespace Mesh

variable {α : Type} [Scalar α]

/-- The mesh of vertices and indices, perhaps with normals, and nothing else. -/
def ofVertices (positions : Array (Vec3 α)) (indices : Array Nat)
    (normals : Option (Array (Vec3 α))) : Mesh α where
  positions := positions
  normals := normals
  uvs := none
  colors := none
  indices := indices
  bounds := .enclosing positions.toList

/-- A mesh with other texture coordinates. -/
def withUvs (m : Mesh α) (uvs : Array (Vec2 α)) : Mesh α := { m with uvs := some uvs }

/-- A mesh with other colors. -/
def withColors (m : Mesh α) (colors : Array (Color α)) : Mesh α := { m with colors := some colors }

/-- A mesh with other normals, or with none. -/
def withNormals (m : Mesh α) (normals : Option (Array (Vec3 α))) : Mesh α :=
  { m with normals := normals }

/-- How many vertices a mesh has. -/
def vertexCount (m : Mesh α) : Nat := m.positions.size

/-- How many triangles a mesh has. -/
def triangleCount (m : Mesh α) : Nat := m.indices.size / 3

/-- The triangles of a mesh. -/
def faces (m : Mesh α) : List Face := facesOf m.indices.toList

/-- The middle of a mesh. -/
def center (m : Mesh α) : Vec3 α := m.bounds.center

/-! ## Normals -/

/-- The outer product of two edges of a triangle, if its corners are vertices. -/
def faceNormal? (positions : Array (Vec3 α)) (f : Face) : Option (Vec3 α) := do
  let p ← positions[f.a]?
  let q ← positions[f.b]?
  let r ← positions[f.c]?
  return (q - p).cross (r - p)

/-- Add the normal of one triangle to those of its corners. -/
def addFace (positions sums : Array (Vec3 α)) (f : Face) : Array (Vec3 α) :=
  match faceNormal? positions f with
  | some n => ((sums.modify f.a (· + n)).modify f.b (· + n)).modify f.c (· + n)
  | none => sums

/-- The sum of the normals of its triangles, for each vertex. -/
def normalSums (m : Mesh α) : Array (Vec3 α) :=
  m.faces.foldl (addFace m.positions) (Array.replicate m.positions.size .zero)

/-- A mesh with the normals of its triangles.  A vertex of no triangle points
along the third axis. -/
def computeNormals (m : Mesh α) : Mesh α :=
  { m with normals := some (m.normalSums.map (Vec3.normalizeOr .unitZ)) }

/-- A mesh with one normal for each vertex.  Normals that are there stay if
their number is right. -/
def ensureNormals (m : Mesh α) : Mesh α :=
  if m.normals.any fun n => n.size == m.positions.size then m else m.computeNormals

/-! ## Vertices -/

/-- The vertices with all their attributes.  What is missing is neutral: a
normal along the third axis, the texture's origin, and white. -/
def vertices (m : Mesh α) : Array (Vertex α) :=
  m.positions.mapIdx fun i p =>
    { position := p
      normal := (m.normals.bind (·[i]?)).getD .unitZ
      uv := (m.uvs.bind (·[i]?)).getD ⟨0, 0⟩
      color := (m.colors.bind (·[i]?)).getD .white }

end Mesh

end Scenery
