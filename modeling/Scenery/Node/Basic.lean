import Scenery.Geometry.Basic
import Scenery.Transform

/-!
# Nodes

A node is a record of the document with everything decided that can be decided
once: its steps with all their amounts, its shadow flags and its children
without repetition.  Children are kept as ids, since a node may be the child of
several others, and of itself.
-/

namespace Scenery

/-- A node of a scene. -/
structure Node (α : Type) where
  /-- The id. -/
  id : String
  /-- The declared type. -/
  type : String
  /-- The steps of its transform, as declared. -/
  steps : List (Step α)
  /-- The id of its material in lower case.  Without one it takes that of the
  node above. -/
  materialRef : Option String
  /-- What it carries. -/
  geometry : Option (Geometry α)
  /-- Whether it casts shadows. -/
  castShadows : Bool
  /-- Whether shadows fall on it. -/
  receiveShadows : Bool
  /-- The ids of its children, as declared, each once. -/
  children : List String

/-- Whether a node only holds others. -/
def Node.isStructural {α : Type} (node : Node α) : Bool := node.geometry.isNone

end Scenery
