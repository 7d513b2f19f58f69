import Scenery.Material.Table
import Scenery.Node.Dictionary
import Scenery.Scene.Basic
import Scenery.Shape.Build

/-!
# Instantiating nodes

`Catalog.instantiate` shows a node: it makes the tree of groups below it, a group
for every way to come to a node on which no id comes twice.  So a node with
several parents has several groups, each with the material that comes down its
own way.

A child that is no node is told and left out, and so is one that is on the way
already.  Each problem is told once (`Journal.addOnce`), although a node may be
shown many times.

A pass builds the figure of a node once, and remembers it by the id of the node,
also when it cannot be built (`Pass.figures`).  The meshes of all groups of a
node are that one mesh.  A mesh is known by its place among the figures that the
pass has built (`Pass.builds`).

The program may stop while it builds a figure (`Figure.build?`).  The walk does not:
it goes on without that figure, and what it has made is given out only if nothing has
stopped (`Pass.answer?`).

The walk ends since the way from the root grows with every step and holds each
id of the dictionary at most once.
-/

namespace Scenery

/-- What a scene is put together from. -/
structure Catalog (α : Type) where
  /-- The nodes. -/
  nodes : NodeDictionary α
  /-- The materials they may ask for. -/
  materials : MaterialTable α
  /-- The textures they may ask for. -/
  textures : TextureTable

/-- A mesh and where it is in its groups. -/
structure PlacedMesh (α : Type) where
  /-- The mesh. -/
  handle : MeshHandle α
  /-- Where it is in a group. -/
  offset : Vec3 α

namespace PlacedMesh

variable {α : Type}

/-- The mesh of a shape that is built after so many figures. -/
def ofShape (slot : Nat) (shape : Shape α) : PlacedMesh α := ⟨⟨slot, shape.mesh⟩, shape.offset⟩

/-- The shape that a mesh has come from. -/
def shape (m : PlacedMesh α) : Shape α := ⟨m.handle.mesh, m.offset⟩

end PlacedMesh

/-- A figure that was built, or the reason why it cannot be. -/
abbrev Built (α : Type) : Type := Except GeometryError (PlacedMesh α)

/-- What a pass remembers. -/
structure Pass (α : Type) where
  /-- The figure of each node that was shown. -/
  figures : Std.HashMap String (Built α)
  /-- The nodes whose figures were built, in this order, also those that could not be. -/
  builds : Array String
  /-- Whether the program has stopped while it built a figure. -/
  stopped : Bool
  /-- What came up. -/
  journal : Journal

namespace Pass

variable {α : Type}

/-- The pass that has shown nothing. -/
def fresh : Pass α := ⟨∅, #[], false, .empty⟩

/-- Tell a problem once. -/
def tell (p : Pass α) (d : Diagnostic) : Pass α := { p with journal := p.journal.addOnce d }

/-- Make a note. -/
def note (p : Pass α) (n : Note) : Pass α := { p with journal := p.journal.note n }

/-- Remember what became of the figure of a node. -/
def remember (p : Pass α) (id : String) (built : Built α) : Pass α :=
  { p with figures := p.figures.insert id built, builds := p.builds.push id }

/-- Build the figure of a node, and tell how it went. -/
def buildFigure [Angular α] (p : Pass α) (id : String) (figure : Figure α) :
    Option (Built α) × Pass α :=
  match figure.build? with
  | none => (none, { p with stopped := true })
  | some (.ok shape) =>
      let built : Built α := .ok (.ofShape p.builds.size shape)
      (some built,
        (p.remember id built).note (.meshBuilt id figure.tag shape.mesh.triangleCount))
  | some (.error error) =>
      (some (.error error), (p.remember id (.error error)).tell (.geometry id error))

/-- The figure of a node, built when it is asked for first. -/
def figure [Angular α] (p : Pass α) (id : String) (figure : Figure α) :
    Option (Built α) × Pass α :=
  match p.figures[id]? with
  | some built => (some built, p)
  | none => p.buildFigure id figure

/-- What was made in a pass, unless the program has stopped in it. -/
def answer? {β : Type} (made : β × Pass α) : Option (β × Pass α) :=
  if made.2.stopped then none else some made

end Pass

namespace Catalog

variable {α : Type}

/-! ## One group -/

/-- The material of a node: its own if it names one of the table, or else the
one that comes down to it. -/
def effective (c : Catalog α) (node : Node α) (inherited : MaterialHandle α) :
    MaterialHandle α :=
  (node.materialRef.bind c.materials.lookup).getD inherited

/-- The problem of a node that names a material that is in no table. -/
def unknownMaterial? (c : Catalog α) (node : Node α) : Option Diagnostic :=
  node.materialRef.bind fun name =>
    if (c.materials.lookup name).isNone then some (.unknownMaterial node.id name) else none

/-- How the mesh of a figure looks in a group of a material. -/
def appearance (c : Catalog α) (material : MaterialHandle α) : Figure α → MeshMaterial α
  | .polygon _ => .vertexColors
  | .video v => .video (c.textures.lookup (Text.lower v.textureRef))
  | _ => .shared material

/-- The problem of a figure that asks for a texture that is in no table. -/
def unknownTexture? (c : Catalog α) (id : String) : Figure α → Option Diagnostic
  | .video v =>
      let name := Text.lower v.textureRef
      if (c.textures.lookup name).isNone then some (.unknownTexture id name) else none
  | _ => none

variable [Angular α]

/-- What a node carries, in a group of a material.  A lamp that is off and a
figure that is not built leave the group without it. -/
def object? (c : Catalog α) (node : Node α) (material : MaterialHandle α) (p : Pass α) :
    Option (SceneObject α) × Pass α :=
  match node.geometry with
  | none => (none, p)
  | some (.lamp lamp) =>
      if lamp.enabled then (some (.light lamp.light), p)
      else (none, p.note (.lampOff node.id lamp.tag))
  | some (.figure figure) =>
      let (built, p) := p.figure node.id figure
      match built with
      | none | some (.error _) => (none, p)
      | some (.ok placed) =>
          (some (.mesh
            { handle := placed.handle
              material := c.appearance material figure
              position := placed.offset
              castShadows := node.castShadows
              receiveShadows := node.receiveShadows }),
            (c.unknownTexture? node.id figure).elim p p.tell)

/-- The group of a node to which a material comes down. -/
def group (c : Catalog α) (node : Node α) (inherited : MaterialHandle α) (p : Pass α) :
    Group α × Pass α :=
  let material := c.effective node inherited
  let (object, p) := c.object? node material ((c.unknownMaterial? node).elim p p.tell)
  ({ id := node.id
     transform := .ofSteps node.steps
     material := material
     castShadows := node.castShadows
     receiveShadows := node.receiveShadows
     objects := object.toList }, p)

/-! ## All groups below -/

/-- The trees of the children of a node.  `path` holds the ids from that node up
to the root. -/
def below (c : Catalog α) (path : List String) (parent : String) (material : MaterialHandle α)
    (children : List String) (p : Pass α) : List (Tree (Group α)) × Pass α :=
  match children with
  | [] => ([], p)
  | id :: rest =>
      match _ : c.nodes.get? id with
      | none => below c path parent material rest (p.tell (.danglingChild parent id))
      | some node =>
          if _ : path.contains id then
            below c path parent material rest (p.tell (.cyclicChild parent id))
          else
            let (top, p) := c.group node material p
            let (inner, p) := below c (id :: path) id top.material node.children p
            let (others, p) := below c path parent material rest p
            (.node top inner :: others, p)
termination_by (c.nodes.unvisited path, children.length)
decreasing_by
  · exact Prod.Lex.right _ (by simp)
  · exact Prod.Lex.right _ (by simp)
  · exact Prod.Lex.left _ _
      (NodeDictionary.unvisited_lt (NodeDictionary.contains_of_get? ‹_›)
        (Bool.eq_false_iff.mpr ‹_›))
  · exact Prod.Lex.right _ (by simp)

/-- The tree of a node to which a material comes down.  An id that is no node has
a bare group. -/
def tree (c : Catalog α) (id : String) (inherited : MaterialHandle α) (p : Pass α) :
    Tree (Group α) × Pass α :=
  match c.nodes.get? id with
  | none => (.node (.bare id inherited) [], p)
  | some node =>
      let (top, p) := c.group node inherited p
      let (inner, p) := c.below [id] id top.material node.children p
      (.node top inner, p)

/-! ## Whole scenes -/

/-- The parent in the problem of a root that is no node. -/
def rootParent : String := "rootid"

/-- Show a root to which a material comes down, after what came up so far. -/
def instantiateAfter (c : Catalog α) (journal : Journal) (root : String)
    (material : MaterialHandle α) : Scene α × Pass α :=
  let start : Pass α := { Pass.fresh with journal := journal }
  let (trees, p) :=
    if c.nodes.contains root then
      let (t, p) := c.tree root material start
      ([t], p)
    else ([], start.tell (.danglingChild rootParent root))
  let scene : Scene α := ⟨trees, p.journal⟩
  let counted : Note :=
    .instantiated scene.groupCount scene.meshCount scene.lightCount root scene.problems.length
  ({ scene with journal := scene.journal.note counted }, { p with journal := .empty })

/-- The scene of a root to which a material comes down, if nothing stops. -/
def instantiate (c : Catalog α) (root : String) (material : MaterialHandle α) : Scene α :=
  (c.instantiateAfter .empty root material).1

/-- Show a root to which a material comes down. -/
def instantiate? (c : Catalog α) (root : String) (material : MaterialHandle α) :
    Option (Scene α) := do
  let (scene, _) ← Pass.answer? (c.instantiateAfter .empty root material)
  some scene

end Catalog

end Scenery
