import Scenery.Proofs.Shape.Border

/-!
# Meshes without repeated edges

All figures but a polygon have meshes that are consistently oriented
(`Figure.oriented_of_build`).  A rectangle, a patch and the wall of a cylinder are one grid, a
box is six grids in blocks of their own, and a cap is a block of its own after the wall.

The cells of a sphere are halved along the other diagonal, and those on a pole are drawn with
only one of their triangles.  Their strokes are again six that go in different directions
(`Shape.sphereStrokes`), or some of them.
-/

namespace Scenery

namespace Shape

/-! ## Sides and caps -/

variable {α : Type}

/-- The sides of a box are oriented: no two of them share a vertex. -/
theorem oriented_sideIndices (start : Nat) (sides : List (Side α)) :
    Oriented start (start + (sides.map Side.vertexCount).sum) (sideIndices start sides) := by
  induction sides generalizing start with
  | nil => exact .nil
  | cons s rest ih =>
      have hrest := ih (start + s.vertexCount)
      rw [Nat.add_assoc, ← List.sum_cons, ← List.map_cons] at hrest
      refine (oriented_gridIndices start s.cols s.rows).append hrest (Nat.le_add_right ..) ?_
      rw [List.map_cons, List.sum_cons, Side.vertexCount]
      omega

/-- The triangle of a cap between two neighbours on its rim. -/
def Cap.sector (center x : Nat) : Cap → Face
  | .top => ⟨center + 1 + x, center + 1 + x + 1, center⟩
  | .bottom => ⟨center + 1 + x + 1, center + 1 + x, center⟩

/-- A cap is a fan of one triangle for each slice. -/
theorem Cap.facesOf_indices (cols center : Nat) (cap : Cap) :
    facesOf (cap.indices cols center) = (List.range cols).map fun x => cap.sector center x := by
  cases cap with
  | top =>
      rw [indices, facesOf_flatMap fun x _ => by simp, List.map_eq_flatMap]
      rfl
  | bottom =>
      rw [indices, facesOf_flatMap fun x _ => by simp, List.map_eq_flatMap]
      rfl

/-- The triangles of a cap have three distinct corners. -/
theorem Cap.proper_sector (center x : Nat) (cap : Cap) : (cap.sector center x).Proper := by
  cases cap with
  | top => constructor <;> simp only [sector] <;> omega
  | bottom => constructor <;> simp only [sector] <;> omega

/-- A directed edge of a cap goes along its rim, to the vertex in the middle or away from it, and
tells the sector it belongs to. -/
theorem Cap.disjoint_sector {center x y : Nat} (h : x ≠ y) (cap : Cap) :
    (cap.sector center x).edges.Disjoint (cap.sector center y).edges := by
  intro e hx hy
  cases cap with
  | top =>
      simp only [sector, Face.edges, List.mem_cons, List.not_mem_nil, or_false, Prod.ext_iff]
        at hx hy
      omega
  | bottom =>
      simp only [sector, Face.edges, List.mem_cons, List.not_mem_nil, or_false, Prod.ext_iff]
        at hx hy
      omega

theorem Cap.le_of_mem_indices {cols center i : Nat} {cap : Cap} (h : i ∈ cap.indices cols center) :
    center ≤ i := by
  obtain ⟨x, -, hi⟩ := List.mem_flatMap.mp h
  cases cap with
  | top =>
      simp only [List.mem_cons, List.not_mem_nil, or_false] at hi
      omega
  | bottom =>
      simp only [List.mem_cons, List.not_mem_nil, or_false] at hi
      omega

/-- A cap's fan uses no edge twice in the same direction. -/
theorem Cap.oriented_indices (cols center : Nat) (cap : Cap) :
    Oriented center (center + (cols + 2)) (cap.indices cols center) := by
  have hcorners := cap.corners_indices cols center
  refine ⟨hcorners.whole, ?proper, ?once, ?within⟩
  case proper =>
    intro f hf
    rw [facesOf_indices] at hf
    obtain ⟨x, -, rfl⟩ := List.mem_map.mp hf
    exact cap.proper_sector center x
  case once =>
    rw [edgesOf, facesOf_indices, List.flatMap_map, List.nodup_flatMap]
    exact ⟨fun x _ => (cap.proper_sector center x).nodup_edges,
      List.nodup_range.imp fun h => cap.disjoint_sector h⟩
  case within => exact fun i hi => ⟨le_of_mem_indices hi, hcorners.inside i hi⟩

/-- Caps are oriented together, since they share no vertex. -/
theorem oriented_capIndices (cols start : Nat) (caps : List Cap) :
    Oriented start (start + caps.length * (cols + 2)) (capIndices cols start caps) := by
  induction caps generalizing start with
  | nil => exact .nil
  | cons cap rest ih =>
      have hlength : start + (cols + 2) + rest.length * (cols + 2) =
          start + (cap :: rest).length * (cols + 2) := by
        rw [List.length_cons]
        ring
      have hrest := ih (start + (cols + 2))
      rw [hlength] at hrest
      refine (cap.oriented_indices cols start).append hrest (Nat.le_add_right ..) ?_
      rw [← hlength]
      exact Nat.le_add_right ..

/-! ## Spheres -/

/-- The strokes of the triangle of a cell of a sphere on the row above. -/
def upperStrokes : List CellStroke := [((0, 1), (0, 0)), ((0, 0), (1, 1)), ((1, 1), (0, 1))]

/-- The strokes of the triangle of a cell of a sphere on the row below. -/
def lowerStrokes : List CellStroke := [((0, 0), (1, 0)), ((1, 0), (1, 1)), ((1, 1), (0, 0))]

/-- The strokes of a cell of a sphere. -/
def sphereStrokes : List CellStroke := upperStrokes ++ lowerStrokes

/-- The strokes of a sphere's cell draw no edge twice. -/
theorem drawable_sphereStrokes : Drawable sphereStrokes :=
  ⟨by decide, by decide, by decide, by decide⟩

/-- The strokes of a cell that may lack a triangle. -/
def halfStrokes (upper lower : Bool) : List CellStroke :=
  (if upper then upperStrokes else []) ++ if lower then lowerStrokes else []

/-- Skipping triangles at a pole only leaves strokes out. -/
theorem halfStrokes_sublist (upper lower : Bool) :
    (halfStrokes upper lower).Sublist sphereStrokes := by
  refine List.Sublist.append ?_ ?_
  · cases upper with
    | true => exact .refl _
    | false => exact List.nil_sublist _
  · cases lower with
    | true => exact .refl _
    | false => exact List.nil_sublist _

/-- The triangle of a cell of a sphere with an edge on the row above. -/
def upperFace (cols col row : Nat) : Face :=
  ⟨gridVertex 0 cols (col + 1) row, gridVertex 0 cols col row,
    gridVertex 0 cols (col + 1) (row + 1)⟩

/-- The triangle of a cell of a sphere with an edge on the row below. -/
def lowerFace (cols col row : Nat) : Face :=
  ⟨gridVertex 0 cols col row, gridVertex 0 cols col (row + 1),
    gridVertex 0 cols (col + 1) (row + 1)⟩

theorem whole_sphereCell (cols row col : Nat) (upper lower : Bool) :
    3 ∣ (sphereCell cols row col upper lower).length := by
  cases upper <;> cases lower <;> simp [sphereCell]

/-- A cell of a sphere has the triangles that are not skipped. -/
theorem facesOf_sphereCell (cols row col : Nat) (upper lower : Bool) :
    facesOf (sphereCell cols row col upper lower) =
      (if upper then [upperFace cols col row] else []) ++
        if lower then [lowerFace cols col row] else [] := by
  simp only [sphereCell, upperFace, lowerFace, gridVertex, Nat.zero_add]
  cases upper <;> cases lower <;> rfl

theorem edges_upperFace (cols col row : Nat) : (upperFace cols col row).edges =
    (upperStrokes.map (drawn (row, col))).map (numberedEdge 0 cols) := rfl

theorem edges_lowerFace (cols col row : Nat) : (lowerFace cols col row).edges =
    (lowerStrokes.map (drawn (row, col))).map (numberedEdge 0 cols) := rfl

/-- The edges of a sphere's cell are the strokes of the triangles that are kept. -/
theorem edgesOf_sphereCell (cols row col : Nat) (upper lower : Bool) :
    edgesOf (sphereCell cols row col upper lower) =
      ((halfStrokes upper lower).map (drawn (row, col))).map (numberedEdge 0 cols) := by
  rw [edgesOf, facesOf_sphereCell, halfStrokes, List.flatMap_append, List.map_append,
    List.map_append]
  congr 1
  · cases upper with
    | true => exact (List.flatMap_singleton ..).trans (edges_upperFace cols col row)
    | false => rfl
  · cases lower with
    | true => exact (List.flatMap_singleton ..).trans (edges_lowerFace cols col row)
    | false => rfl

section Round

variable [Angular α]

/-- Whether the triangle of a cell on the row above is there, and the one on the row below. -/
def kept (angles : SphereAngles α) (rows row : Nat) : Bool × Bool :=
  (row != 0 || decide (0 < angles.thetaStart),
    row + 1 != rows || decide (angles.thetaEnd < Angular.halfTurn))

/-- The edges of a sphere are strokes of its grid, with half a cell left out at some poles. -/
theorem edgesOf_sphereIndices (angles : SphereAngles α) (cols rows : Nat) :
    edgesOf (sphereIndices angles cols rows) = gridEdges 0 cols rows fun cell =>
      halfStrokes (kept angles rows cell.1).1 (kept angles rows cell.1).2 :=
  edgesOf_cells (fun _ _ => whole_sphereCell ..) fun _ _ => edgesOf_sphereCell ..

/-- A sphere is oriented, whatever its poles leave out. -/
theorem oriented_sphereIndices (angles : SphereAngles α) (cols rows : Nat) :
    Oriented 0 ((cols + 1) * (rows + 1)) (sphereIndices angles cols rows) := by
  have hcorners := corners_sphereIndices angles cols rows
  refine ⟨hcorners.whole, proper_of_edgesOf ?proper, ?once, ?within⟩
  case proper =>
    intro e he
    rw [edgesOf_sphereIndices] at he
    exact drawable_sphereStrokes.ne_of_mem_gridEdges (fun _ => halfStrokes_sublist ..) he
  case once =>
    rw [edgesOf_sphereIndices]
    exact drawable_sphereStrokes.nodup_gridEdges fun _ => halfStrokes_sublist ..
  case within => exact fun i hi => ⟨Nat.zero_le i, hcorners.inside i hi⟩

/-! ## Figures -/

/-- A mantle and its caps are oriented together. -/
theorem oriented_cylinderMesh (p : CylinderMeasures α) : (cylinderMesh p).Oriented := by
  have hwall := oriented_gridIndices 0 p.cols p.rows
  rw [Nat.zero_add] at hwall
  exact (hwall.append (oriented_capIndices p.cols _ p.caps) (Nat.zero_le _)
    (Nat.le_add_right ..)).mesh rfl

end Round

/-- What is drawn over a full grid. -/
structure FullGrid (start cols rows : Nat) : Prop where
  /-- Each cell gives two triangles. -/
  cells : facesOf (gridIndices start cols rows) = (List.range rows).flatMap fun row =>
    (List.range cols).flatMap fun col => [nearFace start cols col row, farFace start cols col row]
  /-- An edge that is used is used in both directions exactly if it is not on the border. -/
  inner : ∀ u v : Nat,
    (u, v) ∈ edgesOf (gridIndices start cols rows) ∨
        (v, u) ∈ edgesOf (gridIndices start cols rows) →
      ((u, v) ∈ edgesOf (gridIndices start cols rows) ∧
          (v, u) ∈ edgesOf (gridIndices start cols rows) ↔
        ¬ OnBorder start cols rows u v)

end Shape

namespace Figure

open Shape

variable {α : Type} [Angular α]

/-- Every figure but a polygon has an oriented mesh. -/
theorem oriented {f : Figure α} {s : Shape α} (h : f.shape? = some (.ok s))
    (hother : ∀ g, f ≠ .polygon g) : s.mesh.Oriented := by
  cases f with
  | rectangle g =>
      cases h
      exact (oriented_gridIndices 0 _ _).mesh rfl
  | triangle g =>
      cases h
      have hface : Face.Proper ⟨0, 1, 2⟩ := ⟨by decide, by decide, by decide⟩
      exact ⟨List.forall_mem_singleton.mpr hface, hface.nodup_edges⟩
  | box g =>
      cases h
      exact (oriented_sideIndices 0 (boxSides g)).mesh rfl
  | sphere g =>
      cases h
      exact (oriented_sphereIndices (sphereAngles g) _ _).mesh rfl
  | cylinder g =>
      cases h
      exact oriented_cylinderMesh (cylinderMeasures g)
  | polygon g => exact absurd rfl (hother g)
  | nurbs g =>
      obtain ⟨-, -, surface, rfl⟩ := ofPatch?_eq_ok h
      exact (oriented_gridIndices 0 _ _).mesh rfl
  | video g =>
      cases h
      obtain ⟨proper, once⟩ := oriented_cylinderMesh (videoMeasures g)
      exact ⟨proper, once⟩

/-- All figures that are built have consistently oriented meshes, but for polygons.  A full grid,
which most are made of, has two triangles for each cell and uses its edges in both directions
but for those on its border. -/
theorem oriented_of_build :
    (∀ (f : Figure α) (s : Shape α), f.build? = some (.ok s) → (∀ g, f ≠ .polygon g) →
        s.mesh.Oriented) ∧
      ∀ start cols rows : Nat, FullGrid start cols rows :=
  ⟨fun _ _ h hother => oriented (shape?_of_build? h) hother,
    fun start cols rows => ⟨facesOf_gridIndices start cols rows, fun _ _ h => both_ways_iff h⟩⟩

/-- A cone with a cap at the bottom. -/
def spike : Cylinder Float32 :=
  { base := 1, top := 0, height := 2, slices := 5, layers := 2, capsClose := false,
    thetaStart := 0, thetaLength := 360 }

/-- A cone with one cap is oriented, and an edge inside a small grid is used both ways. -/
theorem oriented_spike :
    (cylinder spike).build? = some (.ok (ofCylinder spike)) ∧ (∀ g, cylinder spike ≠ .polygon g) ∧
      (ofCylinder spike).mesh.Oriented ∧
      (1, 4) ∈ edgesOf (gridIndices 0 2 2) ∧ (4, 1) ∈ edgesOf (gridIndices 0 2 2) ∧
      ¬ OnBorder 0 2 2 1 4 := by
  have hbuild : (cylinder spike).build? = some (.ok (ofCylinder spike)) := if_neg (by decide)
  have hother : ∀ g, cylinder spike ≠ .polygon g := nofun
  obtain ⟨horiented, hgrid⟩ := oriented_of_build (α := Float32)
  have hdown : (1, 4) ∈ edgesOf (gridIndices 0 2 2) := by decide
  have hup : (4, 1) ∈ edgesOf (gridIndices 0 2 2) := by decide
  exact ⟨hbuild, hother, horiented _ _ hbuild hother, hdown, hup,
    ((hgrid 0 2 2).inner 1 4 (Or.inl hdown)).mp ⟨hdown, hup⟩⟩

end Figure

end Scenery
