import Scenery.Proofs.Shape.WellFormed

/-!
# Indices in words of 32 bits

The indices of a mesh are words of 32 bits, and so are the sums, products and differences
they are computed from.  The definitions of the library compute in numbers without a bound.
Here the indices of each figure are computed once more, step by step as words: every
intermediate value goes through `word?`, which fails where a word could not hold it, a
difference fails below zero, a remainder fails for a divisor of zero, and the number of
vertices placed so far is made a word where a block of vertices starts.

That nothing fails for a figure that is built, and that the indices are those of its mesh,
is `Figure.wellFormed_of_build`.  The estimate is what carries it, since every value on the
way to an index is at most the number of vertices.
-/

namespace Scenery

namespace Shape

/-! ## Words -/

/-- A number, if a word of 32 bits holds it. -/
def word? (n : Nat) : Option Nat := if n ≤ maxVertices then some n else none

/-- A remainder, if there is one. -/
def remainder? (a b : Nat) : Option Nat := if b = 0 then none else some (a % b)

theorem word?_of_le {n : Nat} (h : n ≤ maxVertices) : word? n = some n := if_pos h

theorem minus?_of_le {a b : Nat} (h : b ≤ a) : Surface.minus? a b = some (a - b) := if_pos h

theorem remainder?_of_pos {a b : Nat} (h : 0 < b) : remainder? a b = some (a % b) :=
  if_neg (Nat.pos_iff_ne_zero.mp h)

/-- What the turns of a loop put one after another, if none fails. -/
def collect? {β : Type} (turn : Nat → Option (List β)) : List Nat → Option (List β)
  | [] => some []
  | x :: rest => do
      let here ← turn x
      let more ← collect? turn rest
      return here ++ more

/-- A loop does not fail if no turn does. -/
theorem collect?_eq {β : Type} {turn : Nat → Option (List β)} {result : Nat → List β}
    {xs : List Nat} (h : ∀ x ∈ xs, turn x = some (result x)) :
    collect? turn xs = some (xs.flatMap result) := by
  induction xs with
  | nil => rfl
  | cons x rest ih =>
      rw [collect?, h x (List.mem_cons_self ..), ih fun y hy => h y (List.mem_cons_of_mem x hy)]
      rfl

/-- Neither do two loops, one within the other. -/
theorem collect?_collect?_eq {β : Type} {turn : Nat → Nat → Option (List β)}
    {result : Nat → Nat → List β} {rows cols : Nat}
    (h : ∀ row < rows, ∀ col < cols, turn row col = some (result row col)) :
    collect? (fun row => collect? (turn row) (List.range cols)) (List.range rows) =
      some ((List.range rows).flatMap fun row => (List.range cols).flatMap (result row)) := by
  apply collect?_eq
  intro row hrow
  apply collect?_eq
  intro col hcol
  exact h row (List.mem_range.mp hrow) col (List.mem_range.mp hcol)

/-! ## Grids -/

/-- The corners of a cell. -/
def cellWords? (start stride row col : Nat) : Option (List Nat) := do
  let next ← word? (row + 1)
  let above ← word? (row * stride)
  let below ← word? (next * stride)
  let upper ← word? (start + above)
  let lower ← word? (start + below)
  let a ← word? (upper + col)
  let b ← word? (lower + col)
  let c ← word? (b + 1)
  let d ← word? (a + 1)
  return [a, b, d, b, c, d]

/-- The corners of a grid. -/
def gridWords? (start cols rows : Nat) : Option (List Nat) := do
  let stride ← word? (cols + 1)
  collect? (fun row => collect? (cellWords? start stride row) (List.range cols)) (List.range rows)

/-- What is computed on the way to the corners of a cell is no more than the vertices of its
grid. -/
theorem cell_lt {cols rows row col : Nat} (hcol : col < cols) (hrow : row < rows) :
    (row + 1) * (cols + 1) + (col + 1) < (cols + 1) * (rows + 1) ∧
      row * (cols + 1) + (col + 1) < (cols + 1) * (rows + 1) ∧
      row + 1 ≤ (row + 1) * (cols + 1) :=
  ⟨vertex_lt (Nat.succ_le_of_lt hcol) (Nat.succ_le_of_lt hrow),
    vertex_lt (Nat.succ_le_of_lt hcol) (Nat.le_of_lt hrow), Nat.le_mul_of_pos_right _ (by omega)⟩

/-- The indices of a cell fit into words if the whole grid does. -/
theorem cellWords?_eq {start cols rows row col : Nat} (hcol : col < cols) (hrow : row < rows)
    (h : start + (cols + 1) * (rows + 1) ≤ maxVertices) :
    cellWords? start (cols + 1) row col = some (cellIndices start cols row col) := by
  obtain ⟨hc, hd, hnext⟩ := cell_lt hcol hrow
  simp (disch := omega) only [cellWords?, word?_of_le, Option.bind_eq_bind, Option.bind_some]
  rfl

/-- A grid whose vertices words can count has its indices computed in words. -/
theorem gridWords?_eq {start cols rows : Nat} (h : start + (cols + 1) * (rows + 1) ≤ maxVertices) :
    gridWords? start cols rows = some (gridIndices start cols rows) := by
  have hstride : cols + 1 ≤ (cols + 1) * (rows + 1) := Nat.le_mul_of_pos_right _ (by omega)
  unfold gridWords?
  rw [word?_of_le (by omega), Option.bind_eq_bind, Option.bind_some]
  exact collect?_collect?_eq fun row hrow col hcol => cellWords?_eq hcol hrow h

/-! ## Boxes -/

section Box

variable {α : Type} [Scalar α]

/-- The corners of the sides of a box, after the vertices that are placed already. -/
def sideWords? (placed : List (Vec3 α)) : List (Side α) → Option (List Nat)
  | [] => some []
  | s :: rest => do
      let start ← word? placed.length
      let here ← gridWords? start s.cols s.rows
      let more ← sideWords? (placed ++ gridOf s.cols s.rows s.position) rest
      return here ++ more

/-- The start of every side and the indices on it fit into words if all the vertices do. -/
theorem sideWords?_eq {placed : List (Vec3 α)} {sides : List (Side α)}
    (h : placed.length + (sides.map Side.vertexCount).sum ≤ maxVertices) :
    sideWords? placed sides = some (sideIndices placed.length sides) := by
  induction sides generalizing placed with
  | nil => rfl
  | cons s rest ih =>
      rw [List.map_cons, List.sum_cons] at h
      have hside : s.vertexCount = (s.cols + 1) * (s.rows + 1) := rfl
      have hplaced : (placed ++ gridOf s.cols s.rows s.position).length =
          placed.length + s.vertexCount := by
        rw [List.length_append, gridOf_length, hside]
      have hmore : sideWords? (placed ++ gridOf s.cols s.rows s.position) rest = _ :=
        ih (by rw [hplaced]; omega)
      have hhere : gridWords? placed.length s.cols s.rows = _ := gridWords?_eq (by omega)
      rw [sideWords?, word?_of_le (by omega), Option.bind_eq_bind, Option.bind_some, hhere,
        hmore, hplaced]
      rfl

end Box

variable {α : Type} [Angular α]

/-! ## Spheres -/

/-- The corners of a cell of a sphere, without those triangles that are left out. -/
def sphereCellWords? (angles : SphereAngles α) (rows stride row col : Nat) :
    Option (List Nat) := do
  let next ← word? (row + 1)
  let above ← word? (row * stride)
  let below ← word? (next * stride)
  let b ← word? (above + col)
  let a ← word? (b + 1)
  let c ← word? (below + col)
  let d ← word? (c + 1)
  let last ← Surface.minus? rows 1
  return (if row ≠ 0 ∨ 0 < angles.thetaStart then [a, b, d] else []) ++
    if row ≠ last ∨ angles.thetaEnd < Angular.halfTurn then [b, c, d] else []

/-- The corners of a sphere. -/
def sphereWords? (angles : SphereAngles α) (cols rows : Nat) : Option (List Nat) := do
  let stride ← word? (cols + 1)
  collect? (fun row => collect? (sphereCellWords? angles rows stride row) (List.range cols))
    (List.range rows)

/-- The indices of a sphere's cell fit into words if the whole grid does. -/
theorem sphereCellWords?_eq {angles : SphereAngles α} {cols rows row col : Nat} (hcol : col < cols)
    (hrow : row < rows) (h : (cols + 1) * (rows + 1) ≤ maxVertices) :
    sphereCellWords? angles rows (cols + 1) row col =
      some (sphereCell cols row col (row != 0 || decide (0 < angles.thetaStart))
        (row + 1 != rows || decide (angles.thetaEnd < Angular.halfTurn))) := by
  obtain ⟨hc, hd, hnext⟩ := cell_lt hcol hrow
  have hlast : row ≠ rows - 1 ↔ row + 1 ≠ rows := by omega
  simp (disch := omega) only [sphereCellWords?, word?_of_le, minus?_of_le, Option.bind_eq_bind,
    Option.bind_some, hlast]
  simp only [sphereCell, Bool.or_eq_true, bne_iff_ne, ne_eq, decide_eq_true_eq]
  rfl

/-- A sphere whose vertices words can count has its indices computed in words. -/
theorem sphereWords?_eq {angles : SphereAngles α} {cols rows : Nat}
    (h : (cols + 1) * (rows + 1) ≤ maxVertices) :
    sphereWords? angles cols rows = some (sphereIndices angles cols rows) := by
  have hstride : cols + 1 ≤ (cols + 1) * (rows + 1) := Nat.le_mul_of_pos_right _ (by omega)
  unfold sphereWords?
  rw [word?_of_le (by omega), Option.bind_eq_bind, Option.bind_some]
  exact collect?_collect?_eq fun row hrow col hcol => sphereCellWords?_eq hcol hrow h

/-! ## Cylinders -/

/-- The corners of a sector of a cap. -/
def Cap.sectorWords? (center rim : Nat) (cap : Cap) (x : Nat) : Option (List Nat) := do
  let i ← word? (rim + x)
  let next ← word? (i + 1)
  return match cap with
    | .top => [i, next, center]
    | .bottom => [next, i, center]

/-- The corners of several caps, after the vertices that are placed already.  The rim
starts after the middle is placed. -/
def capWords? (p : CylinderMeasures α) (placed : List (Vec3 α)) : List Cap → Option (List Nat)
  | [] => some []
  | cap :: rest => do
      let center ← word? placed.length
      let rim ← word? (placed.length + 1)
      let here ← collect? (cap.sectorWords? center rim) (List.range p.cols)
      let more ← capWords? p (placed ++ cap.positions p) rest
      return here ++ more

/-- The corners of a cylinder. -/
def cylinderWords? (p : CylinderMeasures α) : Option (List Nat) := do
  let wall ← gridWords? 0 p.cols p.rows
  let ends ← capWords? p (gridOf p.cols p.rows p.wallPosition) p.caps
  return wall ++ ends

/-- The three corners of a cap's sector fit into words if the cap does. -/
theorem Cap.sectorWords?_eq {center cols x : Nat} (cap : Cap) (hx : x < cols)
    (h : center + (cols + 2) ≤ maxVertices) :
    cap.sectorWords? center (center + 1) x =
      some (match cap with
        | .top => [center + 1 + x, center + 1 + x + 1, center]
        | .bottom => [center + 1 + x + 1, center + 1 + x, center]) := by
  simp (disch := omega) only [sectorWords?, word?_of_le, Option.bind_eq_bind, Option.bind_some]
  rfl

/-- The fans of all caps are computed in words if their vertices fit. -/
theorem capWords?_eq {p : CylinderMeasures α} {placed : List (Vec3 α)} {caps : List Cap}
    (h : placed.length + caps.length * (p.cols + 2) ≤ maxVertices) :
    capWords? p placed caps = some (capIndices p.cols placed.length caps) := by
  induction caps generalizing placed with
  | nil => rfl
  | cons cap rest ih =>
      have hlength : (cap :: rest).length * (p.cols + 2) =
          (p.cols + 2) + rest.length * (p.cols + 2) := by
        rw [List.length_cons]
        ring
      rw [hlength] at h
      have hplaced : (placed ++ cap.positions p).length = placed.length + (p.cols + 2) := by
        rw [List.length_append, Cap.length_positions]
      have hmore : capWords? p (placed ++ cap.positions p) rest = _ :=
        ih (by rw [hplaced]; omega)
      have hhere : collect? (cap.sectorWords? placed.length (placed.length + 1))
          (List.range p.cols) = some (cap.indices p.cols placed.length) := by
        apply collect?_eq
        intro x hx
        exact cap.sectorWords?_eq (List.mem_range.mp hx) (by omega)
      rw [capWords?, word?_of_le (by omega), word?_of_le (by omega), Option.bind_eq_bind,
        Option.bind_some, Option.bind_eq_bind, Option.bind_some, hhere, hmore, hplaced]
      rfl

/-- A cylinder whose vertices words can count has its indices computed in words. -/
theorem cylinderWords?_eq {p : CylinderMeasures α}
    (h : (cylinderMesh p).vertexCount ≤ maxVertices) :
    cylinderWords? p = some (cylinderMesh p).indices.toList := by
  rw [vertexCount_cylinderMesh] at h
  have hwall : (gridOf p.cols p.rows p.wallPosition).length = (p.cols + 1) * (p.rows + 1) :=
    gridOf_length _ _ _
  unfold cylinderWords?
  rw [gridWords?_eq (by omega), capWords?_eq (by omega), hwall]
  rfl

/-! ## Polygons -/

/-- The number of a vertex of a ring. -/
def ringWord? (slices ring slice : Nat) : Option Nat := do
  let inside ← Surface.minus? ring 1
  let before ← word? (inside * slices)
  let first ← word? (1 + before)
  let turn ← remainder? slice slices
  word? (first + turn)

/-- The corners of a slice within the first ring. -/
def nearWords? (slices slice : Nat) : Option (List Nat) := do
  let next ← word? (slice + 1)
  let a ← ringWord? slices 1 slice
  let b ← ringWord? slices 1 next
  return [0, a, b]

/-- The corners of a slice between a ring and the next one. -/
def bandWords? (slices ring slice : Nat) : Option (List Nat) := do
  let outer ← word? (ring + 1)
  let next ← word? (slice + 1)
  let a ← ringWord? slices ring slice
  let b ← ringWord? slices ring next
  let c ← ringWord? slices outer next
  let d ← ringWord? slices outer slice
  return [a, d, c, a, c, b]

/-- The corners of a slice within the last ring, seen from behind. -/
def farWords? (slices rings slice : Nat) : Option (List Nat) := do
  let next ← word? (slice + 1)
  let a ← ringWord? slices rings next
  let b ← ringWord? slices rings slice
  return [0, a, b]

/-- The corners of a polygon. -/
def polygonWords? (slices rings : Nat) : Option (List Nat) := do
  let near ← collect? (nearWords? slices) (List.range slices)
  let between ← collect? (fun r => collect? (bandWords? slices (r + 1)) (List.range slices))
    (List.range (rings - 1))
  let far ← collect? (farWords? slices rings) (List.range slices)
  return near ++ between ++ far

section Polygon

variable {slices rings : Nat}

/-- A vertex on a ring is computed in words: no product, sum or remainder fails. -/
theorem ringWord?_eq {ring : Nat} (slice : Nat) (hslices : 0 < slices) (hfirst : 1 ≤ ring)
    (hlast : ring ≤ rings) (h : slices * rings + 1 ≤ maxVertices) :
    ringWord? slices ring slice = some (ringVertex slices ring slice) := by
  have hlt := ringVertex_lt slice hslices hfirst hlast
  unfold ringVertex at hlt
  simp (disch := omega) only [ringWord?, word?_of_le, minus?_of_le, remainder?_of_pos,
    Option.bind_eq_bind, Option.bind_some]
  rfl

/-- The fan in front is computed in words. -/
theorem nearWords?_eq {slice : Nat} (hslice : slice < slices) (hrings : 1 ≤ rings)
    (h : slices * rings + 1 ≤ maxVertices) :
    nearWords? slices slice =
      some [0, ringVertex slices 1 slice, ringVertex slices 1 (slice + 1)] := by
  have hslices : slices ≤ slices * rings := Nat.le_mul_of_pos_right _ hrings
  have hplace (s : Nat) := ringWord?_eq s (Nat.zero_lt_of_lt hslice) le_rfl hrings h
  simp (disch := omega) only [nearWords?, word?_of_le, hplace, Option.bind_eq_bind,
    Option.bind_some]
  rfl

/-- The two triangles between rings are computed in words. -/
theorem bandWords?_eq {ring slice : Nat} (hslice : slice < slices) (hring : ring < rings - 1)
    (h : slices * rings + 1 ≤ maxVertices) :
    bandWords? slices (ring + 1) slice =
      some [ringVertex slices (ring + 1) slice, ringVertex slices (ring + 2) slice,
        ringVertex slices (ring + 2) (slice + 1), ringVertex slices (ring + 1) slice,
        ringVertex slices (ring + 2) (slice + 1), ringVertex slices (ring + 1) (slice + 1)] := by
  have hpos : 0 < slices := Nat.zero_lt_of_lt hslice
  have hslices : slices ≤ slices * rings := Nat.le_mul_of_pos_right _ (by omega)
  have hrings : rings ≤ slices * rings := Nat.le_mul_of_pos_left _ hpos
  have hinner (s : Nat) :=
    ringWord?_eq s hpos (show 1 ≤ ring + 1 by omega) (show ring + 1 ≤ rings by omega) h
  have houter (s : Nat) :=
    ringWord?_eq s hpos (show 1 ≤ ring + 2 by omega) (show ring + 2 ≤ rings by omega) h
  simp (disch := omega) only [bandWords?, word?_of_le, hinner, houter, Option.bind_eq_bind,
    Option.bind_some]
  rfl

/-- The fan at the back is computed in words. -/
theorem farWords?_eq {slice : Nat} (hslice : slice < slices) (hrings : 1 ≤ rings)
    (h : slices * rings + 1 ≤ maxVertices) :
    farWords? slices rings slice =
      some [0, ringVertex slices rings (slice + 1), ringVertex slices rings slice] := by
  have hslices : slices ≤ slices * rings := Nat.le_mul_of_pos_right _ hrings
  have hplace (s : Nat) := ringWord?_eq s (Nat.zero_lt_of_lt hslice) hrings le_rfl h
  simp (disch := omega) only [farWords?, word?_of_le, hplace, Option.bind_eq_bind, Option.bind_some]
  rfl

/-- A disc whose vertices words can count has its indices computed in words. -/
theorem polygonWords?_eq (hrings : 1 ≤ rings) (h : slices * rings + 1 ≤ maxVertices) :
    polygonWords? slices rings = some (polygonIndices slices rings) := by
  rw [polygonWords?, collect?_eq fun s hs => nearWords?_eq (List.mem_range.mp hs) hrings h,
    collect?_collect?_eq fun ring hring slice hslice => bandWords?_eq hslice hring h,
    collect?_eq fun s hs => farWords?_eq (List.mem_range.mp hs) hrings h]
  rfl

end Polygon

end Shape

/-! ## Figures -/

namespace Figure

open Shape

variable {α : Type} [Angular α]

/-- The indices of the mesh of a figure, computed in words. -/
def indexWords? : Figure α → Option (List Nat)
  | .rectangle g => gridWords? 0 (max g.partsX.toNat 1) (max g.partsY.toNat 1)
  | .triangle _ => some [0, 1, 2]
  | .box g => sideWords? [] (boxSides g)
  | .sphere g => sphereWords? (sphereAngles g) (max g.slices.toNat 3) (max g.layers.toNat 2)
  | .cylinder g => cylinderWords? (cylinderMeasures g)
  | .polygon g => polygonWords? (max g.slices.toNat 3) (max g.rings.toNat 1)
  | .nurbs g => gridWords? 0 g.partsU.toNat g.partsV.toNat
  | .video g => cylinderWords? (videoMeasures g)

/-- If the vertices of a mesh can be counted in a word, so can everything on the way to its
indices. -/
theorem indexWords?_eq {f : Figure α} {s : Shape α} (h : f.shape? = some (.ok s))
    (hcount : s.mesh.vertexCount ≤ maxVertices) :
    f.indexWords? = some s.mesh.indices.toList := by
  cases f with
  | rectangle g =>
      cases h
      rw [vertexCount_ofRectangle] at hcount
      exact gridWords?_eq (by omega)
  | triangle g =>
      cases h
      rfl
  | box g =>
      cases h
      have hsum : (ofBox g).mesh.vertexCount = ((boxSides g).map Side.vertexCount).sum := by
        rw [← length_sides]
        rfl
      rw [hsum] at hcount
      have hplaced : ([] : List (Vec3 α)).length + ((boxSides g).map Side.vertexCount).sum ≤
          maxVertices := by
        rw [List.length_nil]
        omega
      exact sideWords?_eq hplaced
  | sphere g =>
      cases h
      rw [vertexCount_ofSphere] at hcount
      exact sphereWords?_eq hcount
  | cylinder g =>
      cases h
      exact cylinderWords?_eq hcount
  | polygon g =>
      cases h
      rw [vertexCount_ofPolygon] at hcount
      exact polygonWords?_eq (by omega) hcount
  | nurbs g =>
      obtain ⟨-, -, surface, rfl⟩ := ofPatch?_eq_ok h
      rw [atOrigin, vertexCount_sampled] at hcount
      exact gridWords?_eq (by omega)
  | video g =>
      cases h
      exact cylinderWords?_eq (p := videoMeasures g) hcount

/-- A figure that is built has a well-formed mesh with no more vertices than a word can
count, and nothing that is computed on the way to its indices leaves the words. -/
theorem wellFormed_of_build {f : Figure α} {s : Shape α} (h : f.build? = some (.ok s)) :
    s.mesh.WellFormed ∧ s.mesh.vertexCount ≤ maxVertices ∧
      f.indexWords? = some s.mesh.indices.toList := by
  unfold build? at h
  split at h
  next => cases h
  next hsmall =>
    have hcount : s.mesh.vertexCount ≤ maxVertices := by
      rw [vertexEstimate_eq h, maxVertices_lt_saturated] at hsmall
      omega
    exact ⟨wellFormed h, hcount, indexWords?_eq h hcount⟩

/-- A polygon of one ring with as many vertices as a word can count. -/
def widePolygon : Polygon Float32 :=
  { radius := 1, rings := 1, slices := 0xFFFFFFFE, inner := .white, outer := .black }

/-- A polygon with as many vertices as words can count is built, and its indices are words. -/
theorem wellFormed_widePolygon :
    (polygon widePolygon).build? = some (.ok (ofPolygon widePolygon)) ∧
      (ofPolygon widePolygon).mesh.WellFormed ∧
      (ofPolygon widePolygon).mesh.vertexCount ≤ maxVertices ∧
      (polygon widePolygon).indexWords? = some (ofPolygon widePolygon).mesh.indices.toList := by
  have hbuild : (polygon widePolygon).build? = some (.ok (ofPolygon widePolygon)) :=
    if_neg (by decide)
  exact ⟨hbuild, wellFormed_of_build hbuild⟩

end Figure

end Scenery
