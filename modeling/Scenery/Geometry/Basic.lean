import Scenery.Color

/-!
# What a node carries

A node of a scene may carry one *geometry*: a figure, which becomes a mesh, or a
lamp, which becomes a light.  There are eight figures and three lamps, told
apart by the tag they are declared with.

This module holds the payloads as they are declared.  Angles are in degrees.
Counts of segments are words of 32 bits, so that no count is too large to be
declared, only too large to be built.
-/

namespace Scenery

/-- The tags a geometry is declared with. -/
inductive Tag where
  | rectangle
  | triangle
  | box
  | sphere
  | cylinder
  | polygon
  | nurbs
  | pointLight
  | directionalLight
  | spotLight
  | video
deriving DecidableEq, Repr

namespace Tag

/-- A tag as it is written. -/
def name : Tag → String
  | .rectangle => "rectangle"
  | .triangle => "triangle"
  | .box => "box"
  | .sphere => "sphere"
  | .cylinder => "cylinder"
  | .polygon => "polygon"
  | .nurbs => "nurbs"
  | .pointLight => "pointlight"
  | .directionalLight => "directionallight"
  | .spotLight => "spotlight"
  | .video => "video"

/-- All tags. -/
def all : List Tag :=
  [.rectangle, .triangle, .box, .sphere, .cylinder, .polygon, .nurbs, .pointLight,
    .directionalLight, .spotLight, .video]

/-- The tag of a name in lower case. -/
def ofName? (name : String) : Option Tag := all.find? fun tag => tag.name == name

theorem ofName?_name (tag : Tag) : ofName? tag.name = some tag := by
  cases tag <;> decide

end Tag

/-! ## Figures -/

/-- A rectangle in the plane of the first two axes, between two corners. -/
structure Rectangle (α : Type) where
  /-- One corner. -/
  first : Vec2 α
  /-- The corner across. -/
  second : Vec2 α
  /-- Segments along the first axis. -/
  partsX : UInt32
  /-- Segments along the second axis. -/
  partsY : UInt32

/-- A triangle. -/
structure Triangle (α : Type) where
  /-- The first corner. -/
  first : Vec3 α
  /-- The second corner. -/
  second : Vec3 α
  /-- The third corner. -/
  third : Vec3 α

/-- A box along the axes, between two corners. -/
structure Box (α : Type) where
  /-- One corner. -/
  first : Vec3 α
  /-- The corner across. -/
  second : Vec3 α
  /-- Segments along the first axis. -/
  partsX : UInt32
  /-- Segments along the second axis. -/
  partsY : UInt32
  /-- Segments along the third axis. -/
  partsZ : UInt32

/-- A sphere, or a section of one. -/
structure Sphere (α : Type) where
  /-- The radius. -/
  radius : α
  /-- Segments around the second axis. -/
  slices : UInt32
  /-- Segments from pole to pole. -/
  layers : UInt32
  /-- Where the section starts, from the upper pole down. -/
  thetaStart : α
  /-- How far down the section goes. -/
  thetaLength : α
  /-- Where the section starts around the second axis. -/
  phiStart : α
  /-- How far around the section goes. -/
  phiLength : α

/-- A cylinder, or a cone without its tip. -/
structure Cylinder (α : Type) where
  /-- The radius at the bottom. -/
  base : α
  /-- The radius at the top. -/
  top : α
  /-- The height. -/
  height : α
  /-- Segments around the second axis. -/
  slices : UInt32
  /-- Segments along the second axis. -/
  layers : UInt32
  /-- The declared flag for closed caps.  A cylinder for which it is set has
  none. -/
  capsClose : Bool
  /-- Where the wall starts. -/
  thetaStart : α
  /-- How far around the wall goes. -/
  thetaLength : α

/-- Whether a cylinder has no caps. -/
def Cylinder.openEnded {α : Type} (g : Cylinder α) : Bool := g.capsClose

/-- A flat rosette with a color at each vertex. -/
structure Polygon (α : Type) where
  /-- The radius. -/
  radius : α
  /-- Rings. -/
  rings : UInt32
  /-- Vertices of each ring. -/
  slices : UInt32
  /-- The color in the middle. -/
  inner : Color α
  /-- The color of the outermost ring. -/
  outer : Color α

/-- A surface over a net of control points. -/
structure Patch (α : Type) where
  /-- The degree along the rows of the net. -/
  degreeU : UInt32
  /-- The degree along each row. -/
  degreeV : UInt32
  /-- Segments along the rows of the net. -/
  partsU : UInt32
  /-- Segments along each row. -/
  partsV : UInt32
  /-- The control points, row by row. -/
  points : List (Vec3 α)

/-- An open cone that shows a video. -/
structure Video (α : Type) where
  /-- The texture with the video. -/
  textureRef : String
  /-- The radius at the bottom. -/
  radius : α
  /-- The height. -/
  height : α
  /-- Segments around the second axis. -/
  slices : UInt32
  /-- Segments along the second axis. -/
  layers : UInt32
  /-- The opacity at the top. -/
  fadeStart : α

/-- A geometry that becomes a mesh. -/
inductive Figure (α : Type) where
  | rectangle (g : Rectangle α)
  | triangle (g : Triangle α)
  | box (g : Box α)
  | sphere (g : Sphere α)
  | cylinder (g : Cylinder α)
  | polygon (g : Polygon α)
  | nurbs (g : Patch α)
  | video (g : Video α)

/-- The tag of a figure. -/
def Figure.tag {α : Type} : Figure α → Tag
  | .rectangle _ => .rectangle
  | .triangle _ => .triangle
  | .box _ => .box
  | .sphere _ => .sphere
  | .cylinder _ => .cylinder
  | .polygon _ => .polygon
  | .nurbs _ => .nurbs
  | .video _ => .video

/-! ## Lamps -/

/-- What is declared of every lamp. -/
structure LampBase (α : Type) where
  /-- Whether the lamp is on. -/
  enabled : Bool
  /-- The color of its light. -/
  color : Color α
  /-- How bright it is. -/
  intensity : α
  /-- Where it is. -/
  position : Vec3 α
  /-- Whether its light casts shadows. -/
  castShadow : Bool
  /-- How far its shadows reach. -/
  shadowFar : α
  /-- The width of its shadow map. -/
  shadowMapSize : UInt32

/-- What a lamp lights. -/
inductive LampKind (α : Type) where
  /-- All around. -/
  | point (distance decay : α)
  /-- A cone of a half-angle toward a target. -/
  | spot (distance decay : α) (angle penumbra : α) (target : Vec3 α)
  /-- Everywhere in one direction, with shadows within a frame. -/
  | directional (left right bottom top : α)

/-- A geometry that becomes a light. -/
structure Lamp (α : Type) extends LampBase α where
  /-- What it lights. -/
  kind : LampKind α

/-- The tag of a lamp. -/
def Lamp.tag {α : Type} (l : Lamp α) : Tag :=
  match l.kind with
  | .point .. => .pointLight
  | .spot .. => .spotLight
  | .directional .. => .directionalLight

/-! ## Geometries -/

/-- What a node carries. -/
inductive Geometry (α : Type) where
  /-- A figure. -/
  | figure (f : Figure α)
  /-- A lamp. -/
  | lamp (l : Lamp α)

/-- The tag of a geometry. -/
def Geometry.tag {α : Type} : Geometry α → Tag
  | .figure f => f.tag
  | .lamp l => l.tag

/-- Whether a geometry is a lamp. -/
def Geometry.isLight {α : Type} : Geometry α → Bool
  | .figure _ => false
  | .lamp _ => true

/-! ## Figures that cannot be built -/

/-- Why a figure cannot be built. -/
inductive GeometryError where
  /-- The net has the wrong number of control points. -/
  | controlPointCount (degreeU degreeV expected actual : Nat)
  /-- The surface has no segments along the parameter of this letter. -/
  | noSamples (axis : Char)
  /-- The mesh would have more vertices than 32 bits can count. -/
  | tooManyVertices (tag : Tag) (vertices : Nat)
deriving DecidableEq, Repr

/-- The words for a figure that cannot be built. -/
def GeometryError.message : GeometryError → String
  | .controlPointCount degreeU degreeV expected actual =>
      s!"NURBS surface of degree {degreeU}x{degreeV} needs {expected} control points" ++
        s!", got {actual}"
  | .noSamples axis =>
      "NURBS surface needs at least one sample along " ++ axis.toString
  | .tooManyVertices tag vertices =>
      s!"{tag.name} would need {vertices} vertices, more than a mesh can index"

end Scenery
