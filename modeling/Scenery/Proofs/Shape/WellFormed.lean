import Scenery.Proofs.Shape.Count

/-!
# Well-formed meshes

Nothing stops a mesh from having indices that name no vertex, or attributes for other
vertices than its own.  The meshes of figures have neither (`Mesh.WellFormed`), whatever the
counts of segments (`Figure.wellFormed`).

What has to be looked at is the indices.  `Shape.Corners` says that a list of indices is
whole triangles between so many vertices, and it is kept when such lists are put one after
another, as all loops over rows, columns, slices and rings do.  So it comes down to one cell,
one sector of a cap and one sector between two rings, where each corner is the vertex of a
row and a column within bounds (`Shape.vertex_lt`, `Shape.ringVertex_lt`).
-/

namespace Scenery

/-- A mesh whose indices are whole triangles of its vertices, and whose attributes are one
for each vertex. -/
structure Mesh.WellFormed {α : Type} (m : Mesh α) : Prop where
  /-- No index is left over. -/
  whole : 3 ∣ m.indices.size
  /-- Every index names a vertex. -/
  inside : ∀ i ∈ m.indices, i < m.vertexCount
  /-- If there are normals, each vertex has one. -/
  normals : ∀ normals, m.normals = some normals → normals.size = m.vertexCount
  /-- If there are texture coordinates, each vertex has some. -/
  uvs : ∀ uvs, m.uvs = some uvs → uvs.size = m.vertexCount
  /-- If there are colors, each vertex has one. -/
  colors : ∀ colors, m.colors = some colors → colors.size = m.vertexCount

namespace Shape

/-! ## Corners of triangles -/

/-- Indices that are whole triangles between the first `count` vertices. -/
structure Corners (count : Nat) (indices : List Nat) : Prop where
  /-- No index is left over. -/
  whole : 3 ∣ indices.length
  /-- Every index names a vertex. -/
  inside : ∀ i ∈ indices, i < count

namespace Corners

variable {count : Nat} {indices more : List Nat}

theorem nil : Corners count [] := ⟨by simp, by simp⟩

/-- Three corners below the count are one whole triangle. -/
theorem triangle {a b c : Nat} (ha : a < count) (hb : b < count) (hc : c < count) :
    Corners count [a, b, c] where
  whole := by simp
  inside := by
    intro i hi
    simp only [List.mem_cons, List.not_mem_nil, or_false] at hi
    rcases hi with rfl | rfl | rfl
    · exact ha
    · exact hb
    · exact hc

/-- Whole triangles after whole triangles are whole triangles. -/
theorem append (h : Corners count indices) (hmore : Corners count more) :
    Corners count (indices ++ more) where
  whole := by
    rw [List.length_append]
    exact Nat.dvd_add h.whole hmore.whole
  inside := by
    intro i hi
    rcases List.mem_append.mp hi with hi | hi
    · exact h.inside i hi
    · exact hmore.inside i hi

/-- Corners among some vertices are corners among more. -/
theorem mono {larger : Nat} (h : Corners count indices) (hle : count ≤ larger) :
    Corners larger indices :=
  ⟨h.whole, fun i hi => Nat.lt_of_lt_of_le (h.inside i hi) hle⟩

/-- A loop puts whole triangles one after another if each of its turns does. -/
theorem flatMap {β : Type} {xs : List β} {turn : β → List Nat}
    (h : ∀ x ∈ xs, Corners count (turn x)) : Corners count (xs.flatMap turn) := by
  induction xs with
  | nil => exact nil
  | cons x rest ih =>
      rw [List.flatMap_cons]
      apply append (h x (List.mem_cons_self ..))
      exact ih fun y hy => h y (List.mem_cons_of_mem x hy)

end Corners

/-! ## Vertices by rows and columns -/

/-- Every row and column of a grid has a vertex. -/
theorem vertex_lt {cols rows col row : Nat} (hcol : col ≤ cols) (hrow : row ≤ rows) :
    row * (cols + 1) + col < (cols + 1) * (rows + 1) :=
  calc row * (cols + 1) + col
      < row * (cols + 1) + (cols + 1) := by omega
    _ = (row + 1) * (cols + 1) := by ring
    _ ≤ (rows + 1) * (cols + 1) := Nat.mul_le_mul_right _ (by omega)
    _ = (cols + 1) * (rows + 1) := Nat.mul_comm ..

/-- The two triangles of a cell have their corners on the grid that starts at `start`. -/
theorem corners_cellIndices {start cols rows col row : Nat} (hcol : col < cols)
    (hrow : row < rows) :
    Corners (start + (cols + 1) * (rows + 1)) (cellIndices start cols row col) := by
  have ha := vertex_lt (Nat.le_of_lt hcol) (Nat.le_of_lt hrow)
  have hb := vertex_lt (Nat.le_of_lt hcol) (Nat.succ_le_of_lt hrow)
  have hc := vertex_lt (Nat.succ_le_of_lt hcol) (Nat.succ_le_of_lt hrow)
  have hd := vertex_lt (Nat.succ_le_of_lt hcol) (Nat.le_of_lt hrow)
  simp only [Nat.succ_eq_add_one] at hb hc hd
  have hcell : cellIndices start cols row col =
      [start + row * (cols + 1) + col, start + (row + 1) * (cols + 1) + col,
        start + row * (cols + 1) + col + 1] ++
      [start + (row + 1) * (cols + 1) + col, start + (row + 1) * (cols + 1) + col + 1,
        start + row * (cols + 1) + col + 1] := rfl
  rw [hcell]
  apply Corners.append
  · exact .triangle (by omega) (by omega) (by omega)
  · exact .triangle (by omega) (by omega) (by omega)

/-- The triangles of a grid have their corners among the grid's own vertices. -/
theorem corners_gridIndices (start cols rows : Nat) :
    Corners (start + (cols + 1) * (rows + 1)) (gridIndices start cols rows) := by
  apply Corners.flatMap
  intro row hrow
  apply Corners.flatMap
  intro col hcol
  exact corners_cellIndices (List.mem_range.mp hcol) (List.mem_range.mp hrow)

variable {α : Type}

/-- The triangles of a box's sides have their corners among the vertices of those sides. -/
theorem corners_sideIndices (start : Nat) (sides : List (Side α)) :
    Corners (start + (sides.map Side.vertexCount).sum) (sideIndices start sides) := by
  induction sides generalizing start with
  | nil => exact .nil
  | cons s rest ih =>
      rw [sideIndices, List.map_cons, List.sum_cons]
      apply Corners.append
      · exact (corners_gridIndices start s.cols s.rows).mono
          (by unfold Side.vertexCount; omega)
      · exact (ih (start + s.vertexCount)).mono (by omega)

/-- Whichever triangles of a sphere's cell are kept, their corners are on the grid. -/
theorem corners_sphereCell {cols rows col row : Nat} (hcol : col < cols) (hrow : row < rows)
    (upper lower : Bool) :
    Corners ((cols + 1) * (rows + 1)) (sphereCell cols row col upper lower) := by
  have hb := vertex_lt (Nat.le_of_lt hcol) (Nat.le_of_lt hrow)
  have ha := vertex_lt (Nat.succ_le_of_lt hcol) (Nat.le_of_lt hrow)
  have hc := vertex_lt (Nat.le_of_lt hcol) (Nat.succ_le_of_lt hrow)
  have hd := vertex_lt (Nat.succ_le_of_lt hcol) (Nat.succ_le_of_lt hrow)
  simp only [Nat.succ_eq_add_one] at ha hc hd
  unfold sphereCell
  apply Corners.append
  · cases upper with
    | true => exact .triangle (by omega) (by omega) (by omega)
    | false => exact .nil
  · cases lower with
    | true => exact .triangle (by omega) (by omega) (by omega)
    | false => exact .nil

/-- The triangles of a sphere have their corners on its grid, skipped poles or not. -/
theorem corners_sphereIndices [Angular α] (angles : SphereAngles α) (cols rows : Nat) :
    Corners ((cols + 1) * (rows + 1)) (sphereIndices angles cols rows) := by
  apply Corners.flatMap
  intro row hrow
  apply Corners.flatMap
  intro col hcol
  exact corners_sphereCell (List.mem_range.mp hcol) (List.mem_range.mp hrow) _ _

/-! ## Vertices of caps and rings -/

/-- A cap's fan has its corners among the center and the ring after it. -/
theorem Cap.corners_indices (cols center : Nat) (cap : Cap) :
    Corners (center + (cols + 2)) (cap.indices cols center) := by
  apply Corners.flatMap
  intro x hx
  have hlt := List.mem_range.mp hx
  cases cap with
  | top => exact .triangle (by omega) (by omega) (by omega)
  | bottom => exact .triangle (by omega) (by omega) (by omega)

/-- The fans of several caps have their corners among the vertices of all of them. -/
theorem corners_capIndices (cols start : Nat) (caps : List Cap) :
    Corners (start + caps.length * (cols + 2)) (capIndices cols start caps) := by
  induction caps generalizing start with
  | nil => exact .nil
  | cons cap rest ih =>
      have hlength : (cap :: rest).length * (cols + 2) = (cols + 2) + rest.length * (cols + 2) := by
        rw [List.length_cons]
        ring
      rw [capIndices, hlength]
      apply Corners.append
      · exact (cap.corners_indices cols start).mono (by omega)
      · exact (ih (start + (cols + 2))).mono (by omega)

/-- Every ring and slice of a polygon has a vertex, also the slice after the last. -/
theorem ringVertex_lt {slices rings ring : Nat} (slice : Nat) (hslices : 0 < slices)
    (hfirst : 1 ≤ ring) (hlast : ring ≤ rings) :
    ringVertex slices ring slice < slices * rings + 1 := by
  have hturn : slice % slices < slices := Nat.mod_lt slice hslices
  have hring : (ring - 1) * slices + slices = ring * slices := by
    rw [← Nat.succ_mul]
    congr 1
    omega
  have hle : ring * slices ≤ rings * slices := Nat.mul_le_mul_right slices hlast
  rw [Nat.mul_comm rings slices] at hle
  unfold ringVertex
  omega

/-- The fan and the rings of a disc have their corners among its vertices. -/
theorem corners_polygonIndices {slices rings : Nat} (hslices : 0 < slices) (hrings : 1 ≤ rings) :
    Corners (slices * rings + 1) (polygonIndices slices rings) := by
  have hplace : ∀ ring slice : Nat, 1 ≤ ring → ring ≤ rings →
      ringVertex slices ring slice < slices * rings + 1 :=
    fun ring slice hfirst hlast => ringVertex_lt slice hslices hfirst hlast
  unfold polygonIndices
  refine Corners.append (Corners.append ?near ?between) ?far
  case near =>
    apply Corners.flatMap
    intro s _
    exact .triangle (by omega) (hplace 1 s (Nat.le_refl 1) hrings)
      (hplace 1 (s + 1) (Nat.le_refl 1) hrings)
  case between =>
    apply Corners.flatMap
    intro r hr
    have hring := List.mem_range.mp hr
    apply Corners.flatMap
    intro s _
    have ha := hplace (r + 1) s (by omega) (by omega)
    have hb := hplace (r + 1) (s + 1) (by omega) (by omega)
    have hc := hplace (r + 2) (s + 1) (by omega) (by omega)
    have hd := hplace (r + 2) s (by omega) (by omega)
    exact Corners.append (.triangle ha hd hc) (.triangle ha hc hb)
  case far =>
    apply Corners.flatMap
    intro s _
    exact .triangle (by omega) (hplace rings (s + 1) hrings (Nat.le_refl rings))
      (hplace rings s hrings (Nat.le_refl rings))

end Shape

/-! ## Attributes -/

namespace Mesh

variable {α : Type}

/-- Adding a face to the sums of normals adds no vertex. -/
theorem size_addFace [Scalar α] (positions sums : Array (Vec3 α)) (f : Face) :
    (addFace positions sums f).size = sums.size := by
  unfold addFace
  cases faceNormal? positions f with
  | none => rfl
  | some n => simp only [Array.size_modify]

/-- There is one sum of normals for each vertex. -/
theorem size_normalSums [Scalar α] (m : Mesh α) : m.normalSums.size = m.vertexCount := by
  have hfold : ∀ (faces : List Face) (sums : Array (Vec3 α)),
      (faces.foldl (addFace m.positions) sums).size = sums.size := by
    intro faces
    induction faces with
    | nil => intro sums; rfl
    | cons f rest ih =>
        intro sums
        rw [List.foldl_cons, ih, size_addFace]
  unfold normalSums
  rw [hfold, Array.size_replicate]
  rfl

namespace WellFormed

variable {m : Mesh α}

/-- A mesh made of vertices and whole triangles among them is well formed. -/
theorem ofVertices [Scalar α] {positions : Array (Vec3 α)} {indices : List Nat}
    {normals : Option (Array (Vec3 α))} (h : Shape.Corners positions.size indices)
    (hnormals : ∀ ns, normals = some ns → ns.size = positions.size) :
    (Mesh.ofVertices positions indices.toArray normals).WellFormed where
  whole := h.whole
  inside i hi := h.inside i (List.mem_toArray.mp hi)
  normals := hnormals
  uvs _ hnone := by cases hnone
  colors _ hnone := by cases hnone

/-- Texture places keep a mesh well formed when there is one for each vertex. -/
theorem withUvs (h : m.WellFormed) {uvs : Array (Vec2 α)} (huvs : uvs.size = m.vertexCount) :
    (m.withUvs uvs).WellFormed where
  whole := h.whole
  inside := h.inside
  normals := h.normals
  uvs _ hsome := by
    cases hsome
    exact huvs
  colors := h.colors

/-- Colors keep a mesh well formed when there is one for each vertex. -/
theorem withColors (h : m.WellFormed) {colors : Array (Color α)}
    (hcolors : colors.size = m.vertexCount) : (m.withColors colors).WellFormed where
  whole := h.whole
  inside := h.inside
  normals := h.normals
  uvs := h.uvs
  colors _ hsome := by
    cases hsome
    exact hcolors

/-- Smooth normals keep a mesh well formed. -/
theorem computeNormals [Scalar α] (h : m.WellFormed) : m.computeNormals.WellFormed where
  whole := h.whole
  inside := h.inside
  normals _ hsome := by
    cases hsome
    rw [Array.size_map, size_normalSums]
    rfl
  uvs := h.uvs
  colors := h.colors

end WellFormed

end Mesh

/-! ## Figures -/

namespace Shape

variable {α : Type}

/-- A rectangle's mesh is well formed. -/
theorem wellFormed_ofRectangle [Scalar α] (g : Rectangle α) : (ofRectangle g).mesh.WellFormed := by
  refine (Mesh.WellFormed.ofVertices ?corners ?normals).withUvs ?uvs
  case corners =>
    rw [List.size_toArray, gridOf_length]
    exact (corners_gridIndices 0 _ _).mono (by omega)
  case normals =>
    rintro _ ⟨⟩
    simp only [List.size_toArray, gridOf_length]
  case uvs =>
    rw [Mesh.vertexCount_ofVertices]
    simp only [List.size_toArray, gridOf_length]

/-- A triangle's mesh is well formed. -/
theorem wellFormed_ofTriangle [Scalar α] (g : Triangle α) : (ofTriangle g).mesh.WellFormed := by
  have hcorners : Corners #[g.first, g.second, g.third].size [0, 1, 2] :=
    .triangle (by simp) (by simp) (by simp)
  refine Mesh.WellFormed.computeNormals (Mesh.WellFormed.withUvs ?vertices rfl)
  case vertices =>
    refine Mesh.WellFormed.ofVertices hcorners ?normals
    case normals => intro ns hns; cases hns

/-- A box's mesh is well formed, for any corners and any parts. -/
theorem wellFormed_ofBox [Scalar α] (g : Box α) : (ofBox g).mesh.WellFormed := by
  refine (Mesh.WellFormed.ofVertices ?corners ?normals).withUvs ?uvs
  case corners =>
    rw [List.size_toArray, length_sides]
    exact (corners_sideIndices 0 _).mono (by omega)
  case normals =>
    rintro _ ⟨⟩
    simp only [List.size_toArray, List.length_flatMap, gridOf_length]
  case uvs =>
    rw [Mesh.vertexCount_ofVertices]
    simp only [List.size_toArray, List.length_flatMap, gridOf_length]

/-- The samples of a surface, where there are any, form a well formed grid. -/
theorem wellFormed_sampled [Scalar α] (surface : Surface α) (cols rows : Nat) :
    (sampled surface cols rows).WellFormed := by
  refine Mesh.WellFormed.computeNormals (Mesh.WellFormed.withUvs ?vertices ?uvs)
  case vertices =>
    refine Mesh.WellFormed.ofVertices ?corners ?normals
    case corners =>
      rw [List.size_toArray, gridOf_length]
      exact (corners_gridIndices 0 _ _).mono (by omega)
    case normals => intro ns hns; cases hns
  case uvs =>
    rw [Mesh.vertexCount_ofVertices]
    simp only [List.size_toArray, gridOf_length]

variable [Angular α]

/-- A sphere's mesh is well formed, for any angles. -/
theorem wellFormed_ofSphere (g : Sphere α) : (ofSphere g).mesh.WellFormed := by
  refine (Mesh.WellFormed.ofVertices ?corners ?normals).withUvs ?uvs
  case corners =>
    rw [List.size_toArray, gridOf_length]
    exact corners_sphereIndices _ _ _
  case normals =>
    rintro _ ⟨⟩
    simp only [List.size_toArray, List.length_map]
  case uvs =>
    rw [Mesh.vertexCount_ofVertices]
    simp only [List.size_toArray, gridOf_length]

theorem Cap.length_uvs (p : CylinderMeasures α) (cap : Cap) : (cap.uvs p).length = p.cols + 2 := by
  simp [uvs]

theorem Cap.length_normals (p : CylinderMeasures α) (cap : Cap) :
    (cap.normals p).length = p.cols + 2 := by
  simp [normals]

/-- The mantle and the caps of a cylinder form a well formed mesh. -/
theorem wellFormed_cylinderMesh (p : CylinderMeasures α) : (cylinderMesh p).WellFormed := by
  refine (Mesh.WellFormed.ofVertices ?corners ?normals).withUvs ?uvs
  case corners =>
    simp only [List.size_toArray, List.length_append, gridOf_length, List.length_flatMap,
      Cap.length_positions, List.map_const', List.sum_replicate, smul_eq_mul]
    apply Corners.append
    · exact (corners_gridIndices 0 _ _).mono (by omega)
    · exact corners_capIndices _ _ _
  case normals =>
    rintro _ ⟨⟩
    simp only [List.size_toArray, List.length_append, gridOf_length, List.length_flatMap,
      Cap.length_positions, Cap.length_normals]
  case uvs =>
    rw [Mesh.vertexCount_ofVertices]
    simp only [List.size_toArray, List.length_append, gridOf_length, List.length_flatMap,
      Cap.length_positions, Cap.length_uvs]

/-- A disc's mesh is well formed, with both of its sides. -/
theorem wellFormed_ofPolygon (g : Polygon α) : (ofPolygon g).mesh.WellFormed := by
  refine ((Mesh.WellFormed.ofVertices ?corners ?normals).withUvs ?uvs).withColors ?colors
  case corners =>
    rw [List.size_toArray, length_ringsOf]
    exact corners_polygonIndices (by omega) (by omega)
  case normals =>
    rintro _ ⟨⟩
    simp only [List.size_toArray, List.length_map]
  case uvs =>
    rw [Mesh.vertexCount_ofVertices]
    simp only [List.size_toArray, length_ringsOf]
  case colors =>
    rw [Mesh.vertexCount_withUvs, Mesh.vertexCount_ofVertices]
    simp only [List.size_toArray, length_ringsOf]

/-- The cylinder a video is shown on is well formed. -/
theorem wellFormed_ofVideo (g : Video α) : (ofVideo g).mesh.WellFormed := by
  have hmesh := wellFormed_cylinderMesh (videoMeasures g)
  have huvs := hmesh.uvs _ rfl
  refine (hmesh.withUvs ?uvs).withColors ?colors
  case uvs =>
    rw [Array.size_map]
    exact huvs
  case colors =>
    rw [Array.size_map, Array.size_map]
    exact huvs

end Shape

/-- Whatever its counts of segments, a figure that has a mesh has a well-formed one. -/
theorem Figure.wellFormed {α : Type} [Angular α] {f : Figure α} {s : Shape α}
    (h : f.shape? = some (.ok s)) : s.mesh.WellFormed := by
  cases f with
  | rectangle g =>
      cases h
      exact Shape.wellFormed_ofRectangle g
  | triangle g =>
      cases h
      exact Shape.wellFormed_ofTriangle g
  | box g =>
      cases h
      exact Shape.wellFormed_ofBox g
  | sphere g =>
      cases h
      exact Shape.wellFormed_ofSphere g
  | cylinder g =>
      cases h
      exact Shape.wellFormed_cylinderMesh (Shape.cylinderMeasures g)
  | polygon g =>
      cases h
      exact Shape.wellFormed_ofPolygon g
  | nurbs g =>
      obtain ⟨-, -, surface, rfl⟩ := Shape.ofPatch?_eq_ok h
      exact Shape.wellFormed_sampled surface _ _
  | video g =>
      cases h
      exact Shape.wellFormed_ofVideo g

end Scenery
