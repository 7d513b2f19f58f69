import Scenery.Color
import Scenery.Texture.Basic

/-!
# Materials

A material says how a mesh looks: its colors, how it reflects light, and up to
three textures.  Nodes share materials, so a tree holds a `MaterialHandle`, which
also tells which entry of the table a material is, or that it is none.
-/

namespace Scenery

/-- How light falls on a mesh. -/
inductive Shading where
  /-- Across the edges of triangles. -/
  | smooth
  /-- On each triangle alone. -/
  | flat
  /-- Not at all: the mesh shows its color. -/
  | unlit
deriving DecidableEq, Repr

/-- A shading as it is written. -/
def Shading.name : Shading → String
  | .smooth => "smooth"
  | .flat => "flat"
  | .unlit => "none"

/-- The shading of a name in lower case. -/
def Shading.ofName? (name : String) : Option Shading :=
  [Shading.smooth, .flat, .unlit].find? fun shading => shading.name == name

/-- Which sides of a triangle are seen. -/
inductive Side where
  /-- The front alone. -/
  | front
  /-- Both. -/
  | double
deriving DecidableEq, Repr

/-- A texture on a mesh. -/
structure TextureBinding (α : Type) where
  /-- The texture. -/
  texture : TextureHandle
  /-- How often it repeats along each axis over a unit of length. -/
  repeats : Vec2 α

/-- How a mesh looks. -/
structure Material (α : Type) where
  /-- The name in lower case, empty for none. -/
  name : String
  /-- The color. -/
  color : Color α
  /-- The color of reflections. -/
  specular : Color α
  /-- The color of its own light. -/
  emissive : Color α
  /-- How narrow reflections are. -/
  shininess : α
  /-- Whether it lets through what is behind. -/
  transparent : Bool
  /-- How much it covers what is behind. -/
  opacity : α
  /-- Whether only edges are seen. -/
  wireframe : Bool
  /-- How light falls on it. -/
  shading : Shading
  /-- Which sides are seen. -/
  side : Side
  /-- The texture of its color. -/
  texture : Option (TextureBinding α)
  /-- The texture of its height. -/
  bumpMap : Option TextureHandle
  /-- How high that is. -/
  bumpScale : α
  /-- The texture of its reflections. -/
  specularMap : Option TextureHandle

namespace Material

variable {α : Type} [Scalar α]

/-- How narrow reflections are unless a material says otherwise. -/
def usualShininess : α := Scalar.ofCount 30

/-- A plain material of a name and a color. -/
def plain (name : String) (color : Color α) : Material α where
  name := name
  color := color
  specular := .black
  emissive := .black
  shininess := usualShininess
  transparent := false
  opacity := 1
  wireframe := false
  shading := .smooth
  side := .front
  texture := none
  bumpMap := none
  bumpScale := 1
  specularMap := none

/-- The material of a scene that names none: grey and without a name. -/
def neutral : Material α := plain "" (.grey Scalar.half)

/-- Whether a material has textures. -/
def hasTextures (m : Material α) : Bool :=
  m.texture.isSome || m.bumpMap.isSome || m.specularMap.isSome

/-- Whether a material gives light of its own. -/
def isEmissive (m : Material α) : Bool :=
  decide (0 < m.emissive.r) || decide (0 < m.emissive.g) || decide (0 < m.emissive.b)

end Material

/-- A material as nodes share it. -/
structure MaterialHandle (α : Type) where
  /-- The name of its entry in the table, if it comes from there. -/
  entry : Option String
  /-- The material. -/
  material : Material α

/-- A material that comes from no table. -/
def MaterialHandle.free {α : Type} (m : Material α) : MaterialHandle α := ⟨none, m⟩

/-- Whether two handles share a material, where at most one free material is
around. -/
def MaterialHandle.sameAs {α : Type} (a b : MaterialHandle α) : Bool := a.entry == b.entry

end Scenery
