import Scenery.Bounds
import Scenery.Camera
import Scenery.Color
import Scenery.Decimal.Binary
import Scenery.Decimal.Fixed
import Scenery.Decimal.Shortest
import Scenery.Diagnostic
import Scenery.Document
import Scenery.Geometry.Basic
import Scenery.Geometry.Declaration
import Scenery.Globals
import Scenery.Journal
import Scenery.Json.Basic
import Scenery.Json.Decode
import Scenery.Json.Fault
import Scenery.Json.Numeral
import Scenery.Json.Reader
import Scenery.Json.Vector
import Scenery.Json.Writer
import Scenery.Light
import Scenery.Listing
import Scenery.Load
import Scenery.Main
import Scenery.Material.Basic
import Scenery.Material.Table
import Scenery.Matrix
import Scenery.Mesh
import Scenery.Node.Basic
import Scenery.Node.Dictionary
import Scenery.Node.Graph
import Scenery.Node.Record
import Scenery.Scalar
import Scenery.Scene.Basic
import Scenery.Scene.Instantiate
import Scenery.Shape.Box
import Scenery.Shape.Build
import Scenery.Shape.Cylinder
import Scenery.Shape.Grid
import Scenery.Shape.Patch
import Scenery.Shape.Polygon
import Scenery.Shape.Rectangle
import Scenery.Shape.Sphere
import Scenery.Surface.Basic
import Scenery.Surface.Basis
import Scenery.Text.Case
import Scenery.Text.Hidden
import Scenery.Text.Lowercase
import Scenery.Text.Path
import Scenery.Text.Quoted
import Scenery.Text.Ranges
import Scenery.Texture.Basic
import Scenery.Texture.Table
import Scenery.Transform
import Scenery.Tree
import Scenery.Vector
import Scenery.Proofs.Node.Dictionary
import Scenery.Proofs.Node.Reach
import Scenery.Proofs.Node.Walk
import Scenery.Proofs.Node.BreadthFirst
import Scenery.Proofs.Node.Shadows
import Scenery.Proofs.Scene.Routes
import Scenery.Proofs.Scene.Materials
import Scenery.Proofs.Scene.Workshop
import Scenery.Proofs.Scene.Memory
import Scenery.Proofs.Scene.Problems
import Scenery.Proofs.Scene.History
import Scenery.Proofs.Load
import Scenery.Proofs.Shape.Count
import Scenery.Proofs.Shape.WellFormed
import Scenery.Proofs.Shape.Words
import Scenery.Proofs.Document
import Scenery.Proofs.Json.Keys
import Scenery.Proofs.Omission.Document
import Scenery.Proofs.Omission.Sections
import Scenery.Proofs.Omission.Graph
import Scenery.Proofs.Omission
import Scenery.Proofs.Node.Confined
import Scenery.Proofs.Scene.Undressed
import Scenery.Proofs.Scene.Cycles
import Scenery.Proofs.Matrix
import Scenery.Proofs.Bounds
import Scenery.Proofs.Scene.Enclosure
import Scenery.Proofs.Text.Lowercase
import Scenery.Proofs.Material.Names
import Scenery.Proofs.Scalar.Machine
import Scenery.Proofs.Surface.Span
import Scenery.Proofs.Surface.Within
import Scenery.Proofs.Scalar.Field
import Scenery.Proofs.Vector
import Scenery.Proofs.Surface.Shares
import Scenery.Proofs.Surface.Valid
import Scenery.Proofs.Surface.Mean
import Scenery.Proofs.Surface.Hull
import Scenery.Proofs.Surface.Bernstein
import Scenery.Proofs.Transform
import Scenery.Proofs.Shape.Net
import Scenery.Proofs.Node.Rendering
import Scenery.Proofs.Node.Reports
import Scenery.Proofs.Matrix.Affine
import Scenery.Proofs.Matrix.Rotation
import Scenery.Proofs.Scene.World
import Scenery.Proofs.Shape.Faces
import Scenery.Proofs.Shape.Panel
import Scenery.Proofs.Shape.Winding
import Scenery.Proofs.Shape.Filling
import Scenery.Proofs.Shape.Edges
import Scenery.Proofs.Shape.Border
import Scenery.Proofs.Shape.Oriented
import Scenery.Proofs.Shape.Closed
import Scenery.Proofs.Scalar.Real
import Scenery.Proofs.Shape.Poles
import Scenery.Proofs.Document.Order
import Scenery.Proofs.Bounds.Join
import Scenery.Proofs.Scene.AnyOrder
import Scenery.Proofs.Mesh
import Scenery.Proofs.Tree.Addresses
import Scenery.Proofs.Scene.Preorder
import Scenery.Proofs.Scene.Shelves
import Scenery.Proofs.Scene.Trail
import Scenery.Proofs.Outcome
