import Scenery.Journal
import Scenery.Light
import Scenery.Material.Basic
import Scenery.Mesh
import Scenery.Transform
import Scenery.Tree

/-!
# Scenes

A scene is what is shown: trees of groups.  A group stands for one way to come to
a node from the root.  It has the transform of the node, the material that has
come down to it, and at most one mesh or light.

The matrix of a group in the world is the product of the matrices of all groups
above it and its own (`Scene.visit`).  A mesh is shifted within its group.

Groups share meshes.  So what a group holds is a `MeshHandle`, which also tells when
the mesh was built among all that were built with it.
-/

namespace Scenery

/-- How a mesh in a scene looks. -/
inductive MeshMaterial (α : Type) where
  /-- As the material of its group says. -/
  | shared (material : MaterialHandle α)
  /-- As the colors of its vertices say. -/
  | vertexColors
  /-- As a screen for a video, if there is one. -/
  | video (texture : Option TextureHandle)

/-- A mesh as groups share it. -/
structure MeshHandle (α : Type) where
  /-- How many figures were built before it for the same trees. -/
  slot : Nat
  /-- The mesh. -/
  mesh : Mesh α

/-- Whether two handles, in trees that were made together, share a mesh. -/
def MeshHandle.sameAs {α : Type} (a b : MeshHandle α) : Bool := a.slot == b.slot

/-- A mesh in a group. -/
structure MeshInstance (α : Type) where
  /-- The mesh. -/
  handle : MeshHandle α
  /-- How it looks. -/
  material : MeshMaterial α
  /-- Where it is in its group. -/
  position : Vec3 α
  /-- Whether it casts shadows. -/
  castShadows : Bool
  /-- Whether shadows fall on it. -/
  receiveShadows : Bool

/-- The mesh alone. -/
def MeshInstance.mesh {α : Type} (i : MeshInstance α) : Mesh α := i.handle.mesh

/-- The matrix of a mesh in its group. -/
def MeshInstance.localMatrix {α : Type} [Scalar α] (i : MeshInstance α) : Mat4 α :=
  .shifting i.position

/-- Something in a group. -/
inductive SceneObject (α : Type) where
  /-- A mesh. -/
  | mesh (i : MeshInstance α)
  /-- A light. -/
  | light (l : Light α)

/-- One way to come to a node. -/
structure Group (α : Type) where
  /-- The id of the node. -/
  id : String
  /-- Where the group is within the one above. -/
  transform : Transform α
  /-- The material that has come down to it. -/
  material : MaterialHandle α
  /-- Whether it casts shadows. -/
  castShadows : Bool
  /-- Whether shadows fall on it. -/
  receiveShadows : Bool
  /-- What is in it. -/
  objects : List (SceneObject α)

namespace Group

variable {α : Type}

/-- The group of an id and a material, and nothing else. -/
def bare (id : String) (material : MaterialHandle α) : Group α :=
  ⟨id, .identity, material, false, false, []⟩

/-- The matrix of a group within the one above. -/
def localMatrix [Angular α] (g : Group α) : Mat4 α := g.transform.matrix

/-- The meshes of a group. -/
def meshes (g : Group α) : List (MeshInstance α) :=
  g.objects.filterMap fun
    | .mesh i => some i
    | .light _ => none

/-- The lights of a group. -/
def lights (g : Group α) : List (Light α) :=
  g.objects.filterMap fun
    | .mesh _ => none
    | .light l => some l

end Group

/-- What is shown, and what came up when it was put together. -/
structure Scene (α : Type) where
  /-- The trees of groups. -/
  trees : List (Tree (Group α))
  /-- What came up. -/
  journal : Journal

namespace Scene

variable {α : Type}

/-- The scene that shows nothing. -/
def empty : Scene α := ⟨[], .empty⟩

/-- Add a tree after the others. -/
def add (s : Scene α) (tree : Tree (Group α)) : Scene α := { s with trees := s.trees ++ [tree] }

/-- The problems that came up. -/
def problems (s : Scene α) : List Diagnostic := s.journal.problems

/-- The groups, parents first. -/
def groups (s : Scene α) : List (Group α) := Tree.labels s.trees

/-- The number of groups. -/
def groupCount (s : Scene α) : Nat := s.groups.length

/-- The number of meshes in all groups. -/
def meshCount (s : Scene α) : Nat := (s.groups.flatMap Group.meshes).length

/-- The number of lights in all groups. -/
def lightCount (s : Scene α) : Nat := (s.groups.flatMap Group.lights).length

/-- The first group of an id, with all that is below it. -/
def find? (s : Scene α) (id : String) : Option (Tree (Group α)) :=
  Tree.findAll? (fun g => g.id == id) s.trees

variable [Angular α]

/-- The groups with their matrices in the world, parents first. -/
def visit (s : Scene α) : List (Group α × Mat4 α) :=
  Tree.scanAll (fun world g => world * g.localMatrix) .identity s.trees

/-- The boxes around the meshes of a group in the world. -/
def boundsIn (world : Mat4 α) (g : Group α) : List (Bounds α) :=
  g.meshes.map fun i => i.mesh.bounds.moved (world * i.localMatrix)

/-- The box around all meshes in the world. -/
def worldBounds (s : Scene α) : Bounds α :=
  (s.visit.flatMap fun (g, world) => boundsIn world g).foldl .union .empty

end Scene

/-- The first tree right below the top whose group is of an id. -/
def Tree.child? {α : Type} (t : Tree (Group α)) (id : String) : Option (Tree (Group α)) :=
  t.children.find? fun c => c.label.id == id

end Scenery
