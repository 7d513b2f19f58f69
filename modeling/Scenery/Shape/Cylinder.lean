import Scenery.Shape.Grid
import Scenery.Geometry.Basic

/-!
# Cylinders and video cones

The wall of a cylinder is a grid bent around the second axis, its first row on
top.  The radius changes evenly from the top to the bottom, and the normals are
tilted by the slope of the wall.  Unless the cylinder is open there is a cap at
each end whose radius is not zero: a vertex in the middle and a rim of its own
(`Cap`).

A cylinder that shows a video is an open cone with its tip on top.  Its texture
is turned upside down so that frames appear upright, and its colors fade from
the tip to nothing at the bottom.
-/

namespace Scenery.Shape

variable {α : Type} [Angular α]

/-- The measures of a cylinder, angles in radians. -/
structure CylinderMeasures (α : Type) where
  /-- The radius on top. -/
  radiusTop : α
  /-- The radius at the bottom. -/
  radiusBottom : α
  /-- The height. -/
  height : α
  /-- Segments around the axis. -/
  slices : UInt32
  /-- Segments along the axis. -/
  layers : UInt32
  /-- Whether there are no caps. -/
  openEnded : Bool
  /-- Where the wall starts. -/
  thetaStart : α
  /-- How far around the wall goes. -/
  thetaLength : α

namespace CylinderMeasures

/-- Segments around the axis, at least three. -/
def cols (p : CylinderMeasures α) : Nat := max p.slices.toNat 3

/-- Segments along the axis, at least one. -/
def rows (p : CylinderMeasures α) : Nat := max p.layers.toNat 1

/-- How far around the axis a column is. -/
def theta (p : CylinderMeasures α) (col : Nat) : α :=
  fraction col p.cols * p.thetaLength + p.thetaStart

/-! ## The wall -/

/-- Where a vertex of the wall is. -/
def wallPosition (p : CylinderMeasures α) (col row : Nat) : Vec3 α :=
  let v : α := fraction row p.rows
  let radius := v * (p.radiusBottom - p.radiusTop) + p.radiusTop
  ⟨radius * Angular.sin (p.theta col), -v * p.height + p.height * Scalar.half,
    radius * Angular.cos (p.theta col)⟩

/-- How steeply the wall is tilted. -/
def slope (p : CylinderMeasures α) : α :=
  if Scalar.isZero p.height then 0 else (p.radiusBottom - p.radiusTop) / p.height

/-- The normal of a vertex of the wall. -/
def wallNormal (p : CylinderMeasures α) (col : Nat) : Vec3 α :=
  Vec3.normalizeOr .zero ⟨Angular.sin (p.theta col), p.slope, Angular.cos (p.theta col)⟩

/-- The texture coordinates of a vertex of the wall. -/
def wallUv (p : CylinderMeasures α) (col row : Nat) : Vec2 α :=
  ⟨fraction col p.cols, 1 - fraction row p.rows⟩

end CylinderMeasures

/-! ## Caps -/

/-- One of the two ends of a cylinder. -/
inductive Cap where
  | top
  | bottom
deriving DecidableEq, Repr

namespace Cap

/-- The direction an end faces along the axis. -/
def sign : Cap → α
  | .top => 1
  | .bottom => -1

/-- The radius of an end. -/
def radius (p : CylinderMeasures α) : Cap → α
  | .top => p.radiusTop
  | .bottom => p.radiusBottom

/-- Where the vertices of a cap are, the one in the middle first. -/
def positions (p : CylinderMeasures α) (cap : Cap) : List (Vec3 α) :=
  let y := p.height * Scalar.half * cap.sign
  ⟨0, y, 0⟩ :: (List.range (p.cols + 1)).map fun col =>
    ⟨cap.radius p * Angular.sin (p.theta col), y, cap.radius p * Angular.cos (p.theta col)⟩

/-- The normals of a cap. -/
def normals (p : CylinderMeasures α) (cap : Cap) : List (Vec3 α) :=
  List.replicate (p.cols + 2) ⟨0, cap.sign, 0⟩

/-- The texture coordinates of a cap. -/
def uvs (p : CylinderMeasures α) (cap : Cap) : List (Vec2 α) :=
  .splat Scalar.half :: (List.range (p.cols + 1)).map fun col =>
    ⟨Angular.cos (p.theta col) * Scalar.half + Scalar.half,
      Angular.sin (p.theta col) * Scalar.half * cap.sign + Scalar.half⟩

/-- The triangles of a cap whose vertex in the middle has the number
`center`. -/
def indices (cols center : Nat) (cap : Cap) : List Nat :=
  (List.range cols).flatMap fun x =>
    let i := center + 1 + x
    match cap with
    | .top => [i, i + 1, center]
    | .bottom => [i + 1, i, center]

end Cap

/-- The triangles of several caps whose vertices follow one another, the first
vertex of all having the number `start`. -/
def capIndices (cols start : Nat) : List Cap → List Nat
  | [] => []
  | cap :: rest => cap.indices cols start ++ capIndices cols (start + (cols + 2)) rest

/-- The ends of a cylinder that have a cap. -/
def CylinderMeasures.caps (p : CylinderMeasures α) : List Cap :=
  if p.openEnded then []
  else [Cap.top, Cap.bottom].filter fun cap => decide (0 < cap.radius p)

/-- The mesh of a cylinder. -/
def cylinderMesh (p : CylinderMeasures α) : Mesh α :=
  let caps := p.caps
  let positions := gridOf p.cols p.rows p.wallPosition ++ caps.flatMap (Cap.positions p)
  let normals := gridOf p.cols p.rows (fun col _ => p.wallNormal col) ++
    caps.flatMap (Cap.normals p)
  let uvs := gridOf p.cols p.rows p.wallUv ++ caps.flatMap (Cap.uvs p)
  let indices := gridIndices 0 p.cols p.rows ++
    capIndices p.cols ((p.cols + 1) * (p.rows + 1)) caps
  (Mesh.ofVertices positions.toArray indices.toArray (some normals.toArray)).withUvs uvs.toArray

/-! ## The figures -/

/-- Build a cylinder. -/
def ofCylinder (g : Cylinder α) : Shape α :=
  atOrigin (cylinderMesh
    { radiusTop := g.top
      radiusBottom := g.base
      height := g.height
      slices := g.slices
      layers := g.layers
      openEnded := g.openEnded
      thetaStart := Angular.toRadians g.thetaStart
      thetaLength := Angular.toRadians g.thetaLength })

/-- The measures of a cone that shows a video. -/
def videoMeasures (g : Video α) : CylinderMeasures α where
  radiusTop := 0
  radiusBottom := g.radius
  height := g.height
  slices := g.slices
  layers := g.layers
  openEnded := true
  thetaStart := 0
  thetaLength := Angular.fullTurn

/-- Build a cone that shows a video. -/
def ofVideo (g : Video α) : Shape α :=
  let mesh := cylinderMesh (videoMeasures g)
  let uvs := (mesh.uvs.getD #[]).map fun uv => (⟨uv.x, 1 - uv.y⟩ : Vec2 α)
  let colors := uvs.map fun uv =>
    Color.white.withOpacity (Scalar.clamp 0 1 (g.fadeStart * (1 - uv.y)))
  atOrigin ((mesh.withUvs uvs).withColors colors)

end Scenery.Shape
