import Scenery.Document
import Scenery.Geometry.Basic

/-!
# Problems of a scene

A problem leaves out part of a scene and does not stop the load.  Problems are
compared as values: reporting the same one twice at the same place would be
noise, see `Journal.addOnce`.
-/

namespace Scenery

/-- A problem that leaves out part of a scene. -/
inductive Diagnostic where
  /-- A node has a child that is no node. -/
  | danglingChild (parent child : String)
  /-- A child is the node itself or above it. -/
  | cyclicChild (node child : String)
  /-- A node asks for a material that is not declared. -/
  | unknownMaterial (node material : String)
  /-- A material or a node asks for a texture that is not declared. -/
  | unknownTexture (owner texture : String)
  /-- A node declares a geometry with a tag that is not known. -/
  | unknownGeometry (node tag : String)
  /-- A node declares a transform with a tag that is not known. -/
  | unknownTransform (node tag : String)
  /-- An entry of a section does not convert. -/
  | malformed (part : Part) (id message : String)
  /-- The figure of a node cannot be built. -/
  | geometry (node : String) (error : GeometryError)
  /-- The file of a texture cannot be read. -/
  | textureLoad (texture message : String)
deriving DecidableEq, Repr

/-- The words for a problem. -/
def Diagnostic.message : Diagnostic → String
  | .danglingChild parent child => s!"node '{parent}' references missing child '{child}'"
  | .cyclicChild node child => s!"node '{node}' is its own ancestor through child '{child}'"
  | .unknownMaterial node material => s!"node '{node}' references unknown material '{material}'"
  | .unknownTexture owner texture => s!"'{owner}' references unknown texture '{texture}'"
  | .unknownGeometry node tag => s!"node '{node}' declares unknown geometry type '{tag}'"
  | .unknownTransform node tag => s!"node '{node}' declares unknown transform type '{tag}'"
  | .malformed part id message => s!"{part.name} entry '{id}' is malformed: {message}"
  | .geometry node error => s!"node '{node}': {error.message}"
  | .textureLoad texture message => s!"texture '{texture}' failed to load: {message}"

end Scenery
